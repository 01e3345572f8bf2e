/-
  SyncFleet/Proofs/Job/Waiting.lean
  =================================
  **Who runs a job and waits gets back after the execution of the own ticket.**

  The caller starts the loop, sends a ticket, and gets back in a state in which
  the number that the loop published last is not below that of the ticket
  (`Job.hasCompleted`).  Other callers and the scheduler send tickets as well,
  so that number may be anybody's.

  The published tickets are read off the log like those that were sent, taken up
  and recorded.  They are the first of the tickets that were recorded
  (`Life.recorded_eq`), and the number published last is how many there are
  (`Life.published_eq`).  So a ticket counts as completed exactly if it has been
  published itself, and then one finds back in the log where it was recorded and
  taken up, all after it was sent.  As nothing is published before its reports
  are made, they have been made by then (`ReportingLife.reported_prefix`).
-/
import Mathlib.Data.List.Induction
import SyncFleet.Proofs.Job.History
import SyncFleet.Proofs.Job.Ticket

namespace SyncFleet

open Calendar

/-! ### Published tickets -/

/-- The ticket that was recorded last, if it is not published yet. -/
def Job.unpublished? (j : Job) : Option Nat :=
  match j.phase with
  | .recorded ticket => some ticket
  | _ => none

/-- The ticket that was published. -/
def LogEntry.published (e : LogEntry) : List Nat :=
  match e.step with
  | .loop .publish _ => e.before.unpublished?.toList
  | _ => []

/-- The tickets that were published, in order. -/
def publishedTickets (log : List LogEntry) : List Nat := log.flatMap LogEntry.published

@[simp] theorem publishedTickets_append (log later : List LogEntry) :
    publishedTickets (log ++ later) = publishedTickets log ++ publishedTickets later :=
  List.flatMap_append

@[simp] theorem publishedTickets_singleton (e : LogEntry) :
    publishedTickets [e] = e.published := List.flatMap_singleton _ e

/-- How a ticket was served in a part of a log that ends with its publication: the loop takes it up,
    records its execution in the status, and publishes it. -/
inductive Served (spec : JobSpec) (ticket : Nat) : List LogEntry → Prop where
  | intro {waiting running reporting : List LogEntry} {taken recorded published : LogEntry}
      {x : Execution} {time : Instant} :
      taken.begun = [ticket] →
      recorded.before.phase = .concluded ticket x →
      recorded.after.status = recorded.before.status.record x time →
      recorded.reports = spec.reports x →
      published.published = [ticket] →
      Served spec ticket
        (waiting ++ taken :: (running ++ recorded :: (reporting ++ [published])))

theorem Served.published {spec : JobSpec} {ticket : Nat} {log : List LogEntry}
    (h : Served spec ticket log) : ∃ e ∈ log, e.published = [ticket] := by
  obtain ⟨_, _, _, _, hpublished⟩ := h
  exact ⟨_, by simp, hpublished⟩

namespace Job

variable {j₀ j j' : Job} {s : JobStep} {log later : List LogEntry} {e : LogEntry}
  {due made : List Report} {ticket : Nat}

/-! ### One step -/

/-- What a step records waits to be published, and what it publishes has waited. -/
theorem step?_publishes (h : j.step? s = some j') :
    j.unpublished?.toList ++ LogEntry.recorded ⟨s, j, j'⟩ =
        LogEntry.published ⟨s, j, j'⟩ ++ j'.unpublished?.toList ∧
      ((LogEntry.published ⟨s, j, j'⟩ = [] ∧ j'.completed = j.completed) ∨
        LogEntry.published ⟨s, j, j'⟩ = [j'.completed]) := by
  cases s with
  | call c =>
    cases h
    have hcompleted : (c.apply j).completed = j.completed := by
      rcases apply_cases c j with ⟨_, _, heq⟩ | ⟨_, _, heq⟩ | ⟨_, _, status, _, heq⟩ <;> rw [heq]
      · cases hext : j.spec.external with
        | true => rw [trigger_of_external hext]
        | false => rw [trigger_of_not_external hext]; rfl
      · rcases spawn_eq j with hsame | ⟨_, _, hsame⟩ <;> rw [hsame]
    have hphase : (c.apply j).unpublished? = j.unpublished? := by
      rcases phase_call c j with hphase | ⟨hbefore, hafter⟩
      · simp [unpublished?, hphase]
      · simp [unpublished?, hbefore, hafter]
    refine ⟨?_, Or.inl ⟨rfl, hcompleted⟩⟩
    simp [LogEntry.recorded, LogEntry.published, hphase]
  | loop a own =>
    cases a with
    | spawn => cases own
    | trigger => cases own
    | receive =>
      obtain ⟨_, _, hphase, _, rfl⟩ := receive?_eq_some h
      simp [LogEntry.recorded, LogEntry.published, unpublished?, hphase]
    | finishAttempt r =>
      obtain ⟨_, _, hphase, ⟨_, _, rfl⟩ | ⟨_, rfl⟩⟩ := finishAttempt?_eq_some h <;>
        simp [LogEntry.recorded, LogEntry.published, unpublished?, hphase]
    | resume =>
      obtain ⟨_, _, hphase, rfl⟩ := resume?_eq_some h
      simp [LogEntry.recorded, LogEntry.published, unpublished?, hphase]
    | record now =>
      obtain ⟨_, _, hphase, rfl⟩ := record?_eq_some h
      simp [LogEntry.recorded, LogEntry.published, unpublished?, ticket?, hphase]
    | publish =>
      obtain ⟨_, hphase, rfl⟩ := publish?_eq_some h
      simp [LogEntry.recorded, LogEntry.published, unpublished?, hphase]

/-! ### Entries of a ticket -/

/-- What one finds of a ticket in a log, but not before it was sent. -/
theorem exists_entry_after {f : LogEntry → List Nat} {pre post : List LogEntry}
    (hmem : ticket ∈ (pre ++ e :: post).flatMap f) (hpre : ticket ∉ pre.flatMap f) (he : f e = []) :
    ∃ l e' r, post = l ++ e' :: r ∧ ticket ∈ f e' := by
  rw [List.flatMap_append, List.flatMap_cons, he, List.nil_append] at hmem
  obtain ⟨e', he', hticket⟩ := List.mem_flatMap.mp ((List.mem_append.mp hmem).resolve_left hpre)
  obtain ⟨l, r, hsplit⟩ := List.append_of_mem he'
  exact ⟨l, e', r, hsplit, hticket⟩

end Job

namespace LogEntry

variable {e : LogEntry} {ticket : Nat}

theorem mem_begun (h : ticket ∈ e.begun) : e.begun = [ticket] := by
  unfold begun at h ⊢
  split at h
  · rw [Option.mem_toList.mp h, Option.toList_some]
  · exact absurd h List.not_mem_nil

theorem mem_recorded (h : ticket ∈ e.recorded) (hstep : e.before.step? e.step = some e.after) :
    ∃ time x, e.before.phase = .concluded ticket x ∧
      e.after.status = e.before.status.record x time ∧ e.reports = e.before.spec.reports x ∧
      e.before.ticket? = some ticket := by
  unfold recorded at h
  split at h
  · rename_i time _ hrecord
    have hticket := Option.mem_toList.mp h
    rw [hrecord] at hstep
    obtain ⟨ticket', x, hphase, hafter⟩ := Job.record?_eq_some hstep
    have hsame : ticket' = ticket := by simpa [Job.ticket?, hphase] using hticket
    subst hsame
    exact ⟨time, x, hphase, by rw [hafter], by simp only [reports, hrecord, hphase], hticket⟩
  · exact absurd h List.not_mem_nil

theorem mem_published (h : ticket ∈ e.published) :
    e.step = .publish ∧ e.before.unpublished? = some ticket ∧ e.published = [ticket] := by
  unfold published at h ⊢
  split at h
  · rename_i _ hpublish
    have hticket := Option.mem_toList.mp h
    exact ⟨hpublish, hticket, by rw [hticket, Option.toList_some]⟩
  · exact absurd h List.not_mem_nil

end LogEntry

namespace Job

variable {j₀ j j' : Job} {s : JobStep} {log later : List LogEntry} {e : LogEntry}
  {due made : List Report} {ticket : Nat}

/-! ### A life up to one of its steps -/

theorem Life.unsnoc (h : j₀.Life (log ++ [e]) j) :
    j₀.Life log e.before ∧ e.before.step? e.step = some e.after ∧ j = e.after := by
  generalize hall : log ++ [e] = all at h
  cases h with
  | nil => exact absurd hall (by simp)
  | snoc hlife hstep =>
    obtain ⟨rfl, he⟩ := List.append_inj' hall rfl
    cases List.singleton_inj.mp he
    exact ⟨hlife, hstep, rfl⟩

/-- Each entry of a log is a step that was taken after those before it. -/
theorem Life.until (h : j₀.Life (log ++ e :: later) j) :
    j₀.Life log e.before ∧ e.before.step? e.step = some e.after := by
  induction later using List.reverseRecOn generalizing j with
  | nil =>
    obtain ⟨hlife, hstep, _⟩ := h.unsnoc
    exact ⟨hlife, hstep⟩
  | append_singleton later e' ih =>
    rw [← List.cons_append, ← List.append_assoc] at h
    exact ih h.unsnoc.1

/-! ### Reports that were made -/

theorem ReportingLife.made_append_due (h : j₀.ReportingLife log j due made) :
    made ++ due = log.flatMap LogEntry.reports := by
  induction h with
  | nil => rfl
  | step _ _ _ ih =>
    rw [List.flatMap_append, List.flatMap_singleton, ← ih, List.append_assoc]
  | report _ ih => rw [← ih, List.append_assoc, List.singleton_append]

/-- What was due when a ticket was published had been reported by then. -/
theorem ReportingLife.reported_prefix (h : j₀.ReportingLife log j due made)
    {past rest : List LogEntry} (hlog : log = past ++ e :: rest) (he : e.step = .publish) :
    past.flatMap LogEntry.reports <+: made := by
  induction h generalizing rest with
  | nil => exact absurd hlog (by simp)
  | report _ ih => exact (ih hlog).trans (List.prefix_append _ _)
  | @step log j j' due made s hlife _ hpublish ih =>
    rcases List.eq_nil_or_concat rest with rfl | ⟨rest, e', rfl⟩
    · obtain ⟨rfl, hlast⟩ := List.append_inj' hlog rfl
      cases List.singleton_inj.mp hlast
      have hmade : log.flatMap LogEntry.reports = made := by
        rw [← hlife.made_append_due, hpublish he, List.append_nil]
      exact hmade ▸ List.prefix_rfl
    · rw [List.concat_eq_append, ← List.cons_append, ← List.append_assoc] at hlog
      exact ih (List.append_inj' hlog rfl).1

/-! ### Whole lives -/

section NewJob

variable {spec : JobSpec} {now : Instant}

/-- Of the tickets that were recorded all are published but the last one at most. -/
theorem Life.recorded_eq (h : (new spec now).Life log j) :
    recordedTickets log = publishedTickets log ++ j.unpublished?.toList := by
  induction h with
  | nil => rfl
  | snoc _ hstep ih =>
    rw [recordedTickets_append, publishedTickets_append, recordedTickets_singleton,
      publishedTickets_singleton, ih, List.append_assoc, (step?_publishes hstep).1,
      List.append_assoc]

/-- The tickets that were sent start with those that were published. -/
theorem Life.published_prefix (h : (new spec now).Life log j) :
    publishedTickets log <+: sentTickets log := by
  obtain ⟨hsent, hbegun⟩ := h.conserved
  rw [hsent, hbegun, h.recorded_eq, List.append_assoc, List.append_assoc]
  exact List.prefix_append _ _

/-- The tickets that were published are the first ones, up to the number that is shown. -/
theorem Life.published_eq (h : (new spec now).Life log j) (hext : spec.external = false) :
    publishedTickets log = List.range' 1 j.completed := by
  induction h with
  | nil => rfl
  | @snoc log j j' s hlife hstep ih =>
    rcases (step?_publishes hstep).2 with ⟨hnone, hsame⟩ | hpublished
    · rw [publishedTickets_append, publishedTickets_singleton, hnone, hsame, List.append_nil, ih]
    · -- it is the next of the tickets that were sent, which are numbered from one
      have hnext : j'.completed = j.completed + 1 := by
        have hafter := hlife.snoc hstep
        obtain ⟨rest, hrest⟩ := hafter.published_prefix
        rw [(hafter.numbered hext).1, publishedTickets_append, publishedTickets_singleton, ih,
          hpublished] at hrest
        have hlength := congrArg List.length hrest
        simp only [List.length_append, List.length_range', List.length_singleton] at hlength
        have hplace := congrArg (fun l => l[j.completed]?) hrest
        simp only [List.append_assoc, List.singleton_append] at hplace
        rw [List.getElem?_append_right (by simp), List.length_range', Nat.sub_self,
          List.getElem?_cons_zero, List.getElem?_range' (by omega)] at hplace
        have hnumber := Option.some.inj hplace
        omega
      rw [publishedTickets_append, publishedTickets_singleton, ih, hpublished, hnext,
        List.range'_1_concat, Nat.add_comm]

theorem Life.mem_published_iff (h : (new spec now).Life log j) (hext : spec.external = false) :
    ticket ∈ publishedTickets log ↔ 1 ≤ ticket ∧ j.hasCompleted ticket = true := by
  rw [h.published_eq hext, List.mem_range'_1, hasCompleted, decide_eq_true_iff]
  omega

/-- The number published last does not pass that of the last ticket. -/
theorem Life.completed_le (h : (new spec now).Life log j) (hext : spec.external = false) :
    j.completed ≤ j.issued := by
  have hle := h.published_prefix.length_le
  rwa [h.published_eq hext, (h.numbered hext).1, List.length_range', List.length_range'] at hle

/-- The number published last does not go down. -/
theorem Life.completed_mono (h : (new spec now).Life log j) (hext : spec.external = false)
    (hlater : j.Life later j') : j.completed ≤ j'.completed := by
  have hall := (h.trans hlater).published_eq hext
  rw [publishedTickets_append, h.published_eq hext] at hall
  have hlength := congrArg List.length hall
  rw [List.length_append, List.length_range', List.length_range'] at hlength
  omega

/-- The ticket of a request is its own: no other call sends it. -/
theorem Life.sent_once {pre post : List LogEntry} (h : (new spec now).Life (pre ++ e :: post) j)
    (hext : spec.external = false) (he : e.step = .call .request) :
    e.sent = [e.after.issued] ∧ e.after.issued ∉ sentTickets pre ∧
      e.after.issued ∉ sentTickets post := by
  obtain ⟨hlife, hstep⟩ := h.until
  have hown : e.sent = [e.after.issued] := by
    rw [he] at hstep
    obtain ⟨hsent, hissued⟩ := step?_issued hstep (hlife.spec ▸ hext)
    obtain ⟨step, before, after⟩ := e
    cases he
    rw [hsent, hissued]
    rfl
  have hnodup : (sentTickets pre ++ (e.after.issued :: sentTickets post)).Nodup := by
    have hall := (h.numbered hext).1
    rw [← List.singleton_append, sentTickets_append, sentTickets_append, sentTickets_singleton,
      hown, List.singleton_append] at hall
    rw [hall]
    exact List.nodup_range'
  obtain ⟨_, hrest, hdisjoint⟩ := List.nodup_append.mp hnodup
  refine ⟨hown, fun hmem => hdisjoint _ hmem _ List.mem_cons_self rfl, ?_⟩
  exact (List.nodup_cons.mp hrest).1

theorem Life.served_of_published {pre post : List LogEntry}
    (h : (new spec now).Life (pre ++ e :: post) j) (hext : spec.external = false)
    (he : e.step = .call .request)
    (hpublished : e.after.issued ∈ publishedTickets (pre ++ e :: post)) :
    ∃ done rest last, post = done ++ last :: rest ∧ last.step = .publish ∧
      Served spec e.after.issued (done ++ [last]) := by
  obtain ⟨_, hpre, _⟩ := h.sent_once hext he
  -- before the request nothing has been done for its ticket
  have hlife := h.until.1
  obtain ⟨hsent, hbegun⟩ := hlife.conserved
  have hnotBegun : e.after.issued ∉ begunTickets pre := fun hmem =>
    hpre (hsent ▸ List.mem_append_left _ hmem)
  have hnotRecorded : e.after.issued ∉ recordedTickets pre := fun hmem =>
    hnotBegun (hbegun ▸ List.mem_append_left _ hmem)
  have hnotPublished : e.after.issued ∉ publishedTickets pre := fun hmem =>
    hnotRecorded (hlife.recorded_eq ▸ List.mem_append_left _ hmem)
  -- it is published after it was recorded, and recorded after it was taken up
  obtain ⟨done, last, rest, rfl, hlast⟩ :=
    exists_entry_after hpublished hnotPublished (by simp [LogEntry.published, he])
  rw [← List.cons_append, ← List.append_assoc] at h
  obtain ⟨hpublish, hwaits, hlast⟩ := LogEntry.mem_published hlast
  have hrecorded : e.after.issued ∈ recordedTickets (pre ++ e :: done) := by
    rw [h.until.1.recorded_eq, hwaits]
    exact List.mem_append_right _ (List.mem_singleton_self _)
  obtain ⟨during, recorded, reporting, rfl, hrecord⟩ :=
    exists_entry_after hrecorded hnotRecorded (by simp [LogEntry.recorded, he])
  have hdone := h.until.1
  rw [← List.cons_append, ← List.append_assoc] at hdone
  obtain ⟨time, x, hphase, hstatus, hreports, hticket⟩ :=
    LogEntry.mem_recorded hrecord hdone.until.2
  have htaken : e.after.issued ∈ begunTickets (pre ++ e :: during) := by
    rw [hdone.until.1.conserved.2, hticket]
    exact List.mem_append_right _ (List.mem_singleton_self _)
  obtain ⟨waiting, taken, running, rfl, hbegun⟩ :=
    exists_entry_after htaken hnotBegun (by simp [LogEntry.begun, he])
  refine ⟨_, rest, last, rfl, hpublish, ?_⟩
  have hspec : recorded.before.spec = spec := hdone.until.1.spec
  have hserved : Served spec e.after.issued
      (waiting ++ taken :: (running ++ recorded :: (reporting ++ [last]))) :=
    .intro (LogEntry.mem_begun hbegun) hphase hstatus (hspec ▸ hreports) hlast
  simpa using hserved

/-- **Who runs a job and waits gets back after the execution of the own ticket.**  A request to a
    job that is run here sends a ticket that no other call sends.  In each later state of the job,
    whoever else calls, the ticket counts as completed exactly if since the request the loop has
    taken it up, recorded its execution in the status, and published it, and before that the metrics
    were told of this execution and of all that were recorded before.  The number published last
    does not pass that of the last ticket and does not go down, so what counts as completed does so
    in every later state. -/
theorem ReportingLife.waits_for_own_execution (hext : spec.external = false)
    (h : (new spec now).ReportingLife log j due made) :
    (∀ (pre post : List LogEntry) (e : LogEntry), log = pre ++ e :: post →
      e.step = .call .request →
      e.sent = [e.after.issued] ∧ e.after.issued ∉ sentTickets pre ∧
        e.after.issued ∉ sentTickets post ∧
        (j.hasCompleted e.after.issued = true ↔
          ∃ done rest, post = done ++ rest ∧ Served spec e.after.issued done ∧
            (pre ++ e :: done).flatMap LogEntry.reports <+: made)) ∧
    j.completed ≤ j.issued ∧
    ∀ later j', j.Life later j' → j.completed ≤ j'.completed ∧
      ∀ ticket, j.hasCompleted ticket = true → j'.hasCompleted ticket = true := by
  have hlife := h.life
  refine ⟨?_, hlife.completed_le hext, fun later j' hlater => ?_⟩
  · rintro pre post e rfl he
    obtain ⟨hown, hpre, hpost⟩ := hlife.sent_once hext he
    refine ⟨hown, hpre, hpost, fun hcompleted => ?_, ?_⟩
    · have hnumber : 1 ≤ e.after.issued := by
        have hsent : e.after.issued ∈ sentTickets (pre ++ e :: post) :=
          List.mem_flatMap.mpr ⟨e, by simp, hown ▸ List.mem_singleton_self _⟩
        rw [(hlife.numbered hext).1] at hsent
        exact (List.mem_range'_1.mp hsent).1
      obtain ⟨done, rest, last, rfl, hlast, hserved⟩ := hlife.served_of_published hext he
        ((hlife.mem_published_iff hext).mpr ⟨hnumber, hcompleted⟩)
      refine ⟨done ++ [last], rest, by simp, hserved, ?_⟩
      have hsplit : pre ++ e :: (done ++ last :: rest) = (pre ++ e :: done) ++ last :: rest := by
        simp
      have hlastReports : last.reports = [] := by simp [LogEntry.reports, hlast, JobStep.publish]
      have hall : (pre ++ e :: (done ++ [last])).flatMap LogEntry.reports =
          (pre ++ e :: done).flatMap LogEntry.reports := by
        rw [← List.cons_append, ← List.append_assoc, List.flatMap_append, List.flatMap_singleton,
          hlastReports, List.append_nil]
      exact hall ▸ h.reported_prefix hsplit hlast
    · rintro ⟨done, rest, rfl, hserved, _⟩
      refine ((hlife.mem_published_iff hext).mp ?_).2
      obtain ⟨last, hmem, hlast⟩ := hserved.published
      exact List.mem_flatMap.mpr ⟨last, by simp [hmem], hlast ▸ List.mem_singleton_self _⟩
  · have hle := hlife.completed_mono hext hlater
    refine ⟨hle, fun ticket hcompleted => ?_⟩
    rw [hasCompleted, decide_eq_true_iff] at hcompleted ⊢
    exact Nat.le_trans hcompleted hle

end NewJob

/-! ### A waiter among others -/

/-- Somebody triggers the job, somebody else runs it and waits, and a third one triggers it while
    the first ticket is executed; then the first two tickets are served. -/
def waitingSteps : List JobStep :=
  [.call .trigger, .call .enter, .call .request, .receive, .call .trigger, .finish (.ok .none),
    .record .epoch, .publish, .receive, .finish (.ok .none), .record .epoch, .publish]

/-- The waiter has ticket 2.  When ticket 1 has been published it still waits; it gets back when its
    own ticket has been served and reported, with ticket 3 waiting behind. -/
theorem crowded_waits_for_own_execution :
    let early := (crowded.play? (waitingSteps.take 8)).get rfl
    let r := (crowded.play? waitingSteps).get rfl
    (early.2.completed = 1 ∧ early.2.hasCompleted 2 = false) ∧ r.2.inbox = [3] ∧
      ∃ made, crowded.ReportingLife r.1 r.2 [] made ∧
        (r.2.hasCompleted 2 = true ↔ ∃ done rest, r.1.drop 3 = done ++ rest ∧
          Served crowded.spec 2 done ∧
          (r.1.take 2 ++ r.1[2] :: done).flatMap LogEntry.reports <+: made) ∧
        r.2.hasCompleted 2 = true := by
  intro early r
  refine ⟨⟨rfl, rfl⟩, rfl, ?_⟩
  have hlife : crowded.Life r.1 r.2 := life_played rfl
  obtain ⟨made, hreporting⟩ := hlife.reporting
  obtain ⟨hwaits, _⟩ := hreporting.waits_for_own_execution rfl
  exact ⟨made, hreporting, (hwaits (r.1.take 2) (r.1.drop 3) r.1[2] rfl rfl).2.2.2, rfl⟩

end Job

end SyncFleet

/-
  SyncFleet/Proofs/Job/Ticket.lean
  ================================
  **No ticket is lost, doubled, overtaken or executed beside another one.**

  That the loop takes up the tickets in order and records each of them before
  it takes up the next is the conservation of `Job.Life`.  What is left is that
  the loop gets through them.  `Job.stepsLeft` bounds the steps that it can
  still take if nobody calls: every step of the loop lowers it
  (`stepsLeft_lt`), and a loop that can take no step has neither a ticket in
  hand nor one waiting (`idle_of_stuck`).

  The main statement is `Life.tickets_conserved`: in every state, what is
  recorded, what is being executed and what waits add up to what was asked for.
-/
import SyncFleet.Proofs.Job.Life

namespace SyncFleet

open Calendar

/-! ### How long the loop can go on -/

/-- How many steps the loop can take at most until it waits for the next ticket. -/
def Phase.stepsLeft (p : RetryPolicy) : Phase → Nat
  | .dormant | .waiting => 0
  | .attempting _ n => 2 * (p.maxAttempts.toNat - n.toNat) + 3
  | .resting _ n => 2 * (p.maxAttempts.toNat - n.toNat) + 2
  | .concluded .. => 2
  | .recorded _ => 1

namespace Job

variable {j j' : Job} {a : JobAction} {s : JobStep} {log : List LogEntry}

/-- How many steps the loop can take at most if nobody calls. -/
def stepsLeft (j : Job) : Nat :=
  j.inbox.length * (2 * j.spec.policy.maxAttempts.toNat + 4) + j.phase.stepsLeft j.spec.policy

/-- Whether a delay is followed by another attempt. -/
def Persists (j : Job) : Prop :=
  ∀ ticket n, j.phase = .resting ticket n → j.spec.policy.allows n = true

theorem allows_of_conclude?_eq_none {p : RetryPolicy} {n : UInt32} {r : AttemptResult}
    (h : p.conclude? n r = none) : p.allows n = true := by
  unfold RetryPolicy.conclude? at h
  split at h
  · cases h
  · split at h
    · assumption
    · cases h

theorem Persists.step? (hj : j.Persists) (h : j.step? s = some j') : j'.Persists := by
  cases s with
  | call c =>
    cases h
    intro ticket n hphase
    rcases apply_cases c j with ⟨_, _, heq⟩ | ⟨_, _, heq⟩ | ⟨_, _, status, _, heq⟩
    · rw [heq] at hphase ⊢
      cases hext : j.spec.external with
      | true =>
        rw [trigger_of_external hext] at hphase ⊢
        exact hj ticket n hphase
      | false =>
        rw [trigger_of_not_external hext] at hphase ⊢
        exact hj ticket n hphase
    · rw [heq] at hphase ⊢
      rcases spawn_eq j with hsame | ⟨_, _, hsame⟩
      · rw [hsame] at hphase ⊢
        exact hj ticket n hphase
      · rw [hsame] at hphase
        cases hphase
    · rw [heq] at hphase ⊢
      exact hj ticket n hphase
  | loop a own =>
    intro ticket n hphase
    cases a with
    | spawn => cases own
    | trigger => cases own
    | receive => obtain ⟨_, _, _, _, rfl⟩ := receive?_eq_some h; cases hphase
    | finishAttempt r =>
      obtain ⟨_, _, _, ⟨_, _, rfl⟩ | ⟨hnone, rfl⟩⟩ := finishAttempt?_eq_some h
      · cases hphase
      · cases hphase
        exact allows_of_conclude?_eq_none hnone
    | resume => obtain ⟨_, _, _, rfl⟩ := resume?_eq_some h; cases hphase
    | record now => obtain ⟨_, _, _, rfl⟩ := record?_eq_some h; cases hphase
    | publish => obtain ⟨_, _, rfl⟩ := publish?_eq_some h; cases hphase

theorem Life.persists {j₀ : Job} (h : j₀.Life log j) (h₀ : j₀.Persists) : j.Persists := by
  induction h with
  | nil => exact h₀
  | snoc _ hstep ih => exact ih.step? hstep

/-- Every step of the loop brings it closer to its end. -/
theorem stepsLeft_lt (own : a.isOwn = true) (hj : j.Persists) (h : j.act? a = some j') :
    j'.stepsLeft < j.stepsLeft := by
  cases a with
  | spawn => cases own
  | trigger => cases own
  | receive =>
    obtain ⟨ticket, rest, hphase, hinbox, rfl⟩ := receive?_eq_some h
    simp only [stepsLeft, Phase.stepsLeft, hphase, hinbox, List.length_cons, Nat.succ_mul]
    omega
  | finishAttempt r =>
    obtain ⟨ticket, n, hphase, ⟨e, _, rfl⟩ | ⟨_, rfl⟩⟩ := finishAttempt?_eq_some h <;>
      simp only [stepsLeft, Phase.stepsLeft, hphase] <;> omega
  | resume =>
    obtain ⟨ticket, n, hphase, rfl⟩ := resume?_eq_some h
    have hlt : n.toNat < j.spec.policy.maxAttempts.toNat := by
      simpa [RetryPolicy.allows, UInt32.lt_iff_toNat_lt] using hj ticket n hphase
    have hnext : (n + 1).toNat = n.toNat + 1 := by
      have hbound := j.spec.policy.maxAttempts.toNat_lt
      rw [UInt32.toNat_add]
      simp only [UInt32.toNat_one]
      omega
    simp only [stepsLeft, Phase.stepsLeft, hphase, hnext]
    omega
  | record now =>
    obtain ⟨ticket, e, hphase, rfl⟩ := record?_eq_some h
    simp [stepsLeft, Phase.stepsLeft, hphase]
  | publish =>
    obtain ⟨ticket, hphase, rfl⟩ := publish?_eq_some h
    simp [stepsLeft, Phase.stepsLeft, hphase]

/-- A started loop that can take no step has nothing left to do. -/
theorem idle_of_stuck (hstarted : j.phase ≠ .dormant)
    (hstuck : ∀ a : JobAction, a.isOwn = true → j.act? a = none) :
    j.inbox = [] ∧ j.ticket? = none := by
  cases hphase : j.phase with
  | dormant => exact absurd hphase hstarted
  | waiting =>
    refine ⟨?_, by simp [ticket?, hphase]⟩
    cases hinbox : j.inbox with
    | nil => rfl
    | cons ticket rest =>
      have hreceive := hstuck .receive rfl
      simp [act?, receive?, hphase, hinbox] at hreceive
  | attempting ticket n =>
    have hfinish := hstuck (.finishAttempt (.ok .none)) rfl
    simp [act?, finishAttempt?, hphase, RetryPolicy.conclude?] at hfinish
  | resting ticket n =>
    have hresume := hstuck .resume rfl
    simp [act?, resume?, hphase] at hresume
  | concluded ticket e =>
    have hrecord := hstuck (.record .epoch) rfl
    simp [act?, record?, hphase] at hrecord
  | recorded ticket =>
    have hpublish := hstuck .publish rfl
    simp [act?, publish?, hphase] at hpublish

/-! ### Lives in which nobody calls any more -/

/-- Whether nobody calls, so that only the loop takes steps. -/
def Quiet (log : List LogEntry) : Prop := ∀ e ∈ log, e.call? = none

theorem quiet_append {later : List LogEntry} : Quiet (log ++ later) ↔ Quiet log ∧ Quiet later := by
  simp only [Quiet, List.mem_append]
  constructor
  · intro h
    exact ⟨fun e he => h e (Or.inl he), fun e he => h e (Or.inr he)⟩
  · rintro ⟨hlog, hlater⟩ e (he | he)
    · exact hlog e he
    · exact hlater e he

/-- Who does not call sends nothing. -/
theorem Quiet.sentTickets (h : Quiet log) : sentTickets log = [] := by
  refine List.flatMap_eq_nil_iff.mpr fun e he => ?_
  have hcall := h e he
  cases hstep : e.step with
  | call c => simp [LogEntry.call?, hstep] at hcall
  | loop a own => simp [LogEntry.sent, hstep]

/-- Where there are calls only, the loop takes nothing up. -/
theorem begunTickets_eq_nil (h : ∀ e ∈ log, e.call? ≠ none) : begunTickets log = [] := by
  refine List.flatMap_eq_nil_iff.mpr fun e he => ?_
  have hcall := h e he
  cases hstep : e.step with
  | call c => simp [LogEntry.begun, hstep]
  | loop a own => simp [LogEntry.call?, hstep] at hcall

/-- A loop to which nobody calls takes no more steps than it has left. -/
theorem Life.length_le (h : j.Life log j') (hj : j.Persists) (hquiet : Quiet log) :
    log.length + j'.stepsLeft ≤ j.stepsLeft := by
  induction h with
  | nil => simp
  | @snoc log j₁ j' s hlife hstep ih =>
    obtain ⟨hlog, hlast⟩ := quiet_append.mp hquiet
    have hcall := hlast _ (List.mem_singleton.mpr rfl)
    cases s with
    | call c => cases hcall
    | loop a own =>
      have hlt := stepsLeft_lt own (hlife.persists hj) hstep
      have hle := ih hlog
      rw [List.length_append, List.length_singleton]
      omega

section NewJob

variable {spec : JobSpec} {now : Instant} {later : List LogEntry}

/-- Once the loop has come to its end, all that was sent is recorded. -/
theorem Life.drained (h : (new spec now).Life log j) (hlater : j.Life later j')
    (hquiet : Quiet later) (hstarted : j.phase ≠ .dormant)
    (hstuck : ∀ a : JobAction, a.isOwn = true → j'.act? a = none) :
    recordedTickets (log ++ later) = sentTickets log := by
  obtain ⟨hinbox, hticket⟩ := idle_of_stuck (hlater.started hstarted) hstuck
  obtain ⟨hsent, hbegun⟩ := (h.trans hlater).conserved
  rw [hticket, Option.toList_none, List.append_nil] at hbegun
  rw [hinbox, List.append_nil, sentTickets_append, hquiet.sentTickets, List.append_nil] at hsent
  rw [← hbegun, hsent]

theorem toList_ticket?_length (j : Job) :
    j.ticket?.toList.length = if j.isExecuting then 1 else 0 := by
  unfold ticket? isExecuting
  cases j.phase <;> rfl

/-- **No ticket is lost, doubled, overtaken or executed beside another one.**  At most one loop is
    ever started, and before that there are calls only.  If the job is run here, its tickets are
    numbered in the order in which they are sent, one for each call for an execution; the loop takes
    them up in this order and has recorded all of them but the one that it executes, so that
    recorded executions, the one under way and waiting tickets add up to the calls.  A loop to which
    nobody calls any more comes to an end, and then all that was sent is recorded.  If the job is
    looked after elsewhere, no ticket is sent and the loop takes no step. -/
theorem Life.tickets_conserved (h : (new spec now).Life log j) :
    log.countP LogEntry.startsLoop ≤ 1 ∧
      (log.countP LogEntry.startsLoop = 0 → ∀ e ∈ log, e.call? ≠ none) ∧
      (spec.external = false →
        sentTickets log = List.range' 1 j.issued ∧
        sentTickets log = begunTickets log ++ j.inbox ∧
        begunTickets log = recordedTickets log ++ j.ticket?.toList ∧
        (recordedTickets log).length + (if j.isExecuting then 1 else 0) + j.inbox.length =
          (callsOf log).count .admission +
            ((callsOf log).count .trigger + (callsOf log).count .request) ∧
        ∀ later j', j.Life later j' → Quiet later → later.length ≤ j.stepsLeft ∧
          (j.phase ≠ .dormant → (∀ a : JobAction, a.isOwn = true → j'.act? a = none) →
            recordedTickets (log ++ later) = sentTickets log)) ∧
      (spec.external = true → sentTickets log = [] ∧ j.issued = 0 ∧ ∀ e ∈ log, e.call? ≠ none) := by
  obtain ⟨hsent, hbegun⟩ := h.conserved
  refine ⟨?_, fun hnone => ?_, fun hext => ?_, fun hext => ?_⟩
  · rw [h.loops]
    split <;> decide
  · rw [h.loops] at hnone
    have hdormant : j.phase = .dormant := by simpa using hnone
    exact h.calls_of_dormant hdormant
  · obtain ⟨hnumbered, hissued⟩ := h.numbered hext
    refine ⟨hnumbered, hsent, hbegun, ?_, fun later j' hlater hquiet => ⟨?_, ?_⟩⟩
    · have hlength : (sentTickets log).length = j.issued := by
        rw [hnumbered, List.length_range']
      rw [hsent, hbegun, List.length_append, List.length_append, toList_ticket?_length] at hlength
      rw [hlength, hissued, countP_asks]
    · have hpersists : j.Persists := h.persists fun ticket n hphase => by cases hphase
      exact Nat.le_trans (Nat.le_add_right _ _) (hlater.length_le hpersists hquiet)
    · exact h.drained hlater hquiet
  · obtain ⟨hissued, hinbox, hphase⟩ := h.untouched hext
    have hcalls := h.calls_of_dormant hphase
    refine ⟨?_, hissued, hcalls⟩
    rw [hsent, begunTickets_eq_nil hcalls, hinbox]
    rfl

end NewJob

/-! ### A crowded job -/

/-- A job that may be attempted twice. -/
def crowded : Job := .new ⟨"a", ⟨.empty⟩, false, .fixed 2 0⟩ .epoch

/-- The job is triggered before its loop is started by somebody who waits; while its first attempt
    fails and the second one is made it is started again, requested, admitted and triggered. -/
def crowdedSteps : List JobStep :=
  [.call .trigger, .call .enter, .receive, .call .spawn, .call .request, .call .admission,
    .finish (.error (.failed "busy")), .resume, .call .trigger, .finish (.ok .none),
    .record .epoch, .publish, .receive]

/-- Of the four tickets of the crowded job one is recorded, one is executed and two wait. -/
theorem crowded_tickets_conserved :
    let r := (crowded.play? crowdedSteps).get rfl
    crowded.Life r.1 r.2 ∧ recordedTickets r.1 = [1] ∧ begunTickets r.1 = [1, 2] ∧
      r.2.inbox = [3, 4] ∧ sentTickets r.1 = begunTickets r.1 ++ r.2.inbox ∧
      (recordedTickets r.1).length + (if r.2.isExecuting then 1 else 0) + r.2.inbox.length =
        (callsOf r.1).count .admission +
          ((callsOf r.1).count .trigger + (callsOf r.1).count .request) := by
  intro r
  have hlife : crowded.Life r.1 r.2 := life_played rfl
  obtain ⟨_, _, hown, _⟩ := hlife.tickets_conserved
  obtain ⟨_, hsent, _, hcount, _⟩ := hown rfl
  exact ⟨hlife, rfl, rfl, rfl, hsent, hcount⟩

end Job

end SyncFleet

/-
  SyncFleet/Proofs/Fleet/Underway.lean
  ====================================
  **Executions under way run to their record, whatever becomes of the decision loop.**

  No action but the record of that very execution takes a ticket out of a job's
  hands (`ticketAt?_act?`), so it stays there or is recorded in every run
  (`Run.ticketAt?`).  And it can be recorded: whatever the attempts yield, what
  the job does next leads to the record by steps of this job alone
  (`recordable`).
-/
import SyncFleet.Proofs.Fleet.Books
import SyncFleet.Proofs.Job.Ticket

namespace SyncFleet

open Calendar

/-! ### Executions under way -/

/-- The ticket that the job at a place is executing. -/
def Fleet.ticketAt? (f : Fleet) (i : Nat) : Option Nat := (f.job? i).bind Job.ticket?

namespace Job

variable {j j' : Job} {ticket : Nat}

/-- An execution under way goes on until it is recorded. -/
theorem ticket?_act? {a : JobAction} (h : j.act? a = some j') (hticket : j.ticket? = some ticket) :
    j'.ticket? = some ticket ∨ ∃ now, a = .record now := by
  cases a with
  | record now => exact Or.inr ⟨now, rfl⟩
  | trigger =>
    cases h
    cases hext : j.spec.external with
    | true => rw [trigger_of_external hext]; exact Or.inl hticket
    | false => rw [trigger_of_not_external hext]; exact Or.inl hticket
  | spawn =>
    cases h
    rcases spawn_eq j with hsame | ⟨_, hphase, _⟩
    · rw [hsame]
      exact Or.inl hticket
    · simp [ticket?, hphase] at hticket
  | receive =>
    obtain ⟨_, _, hphase, _⟩ := receive?_eq_some h
    simp [ticket?, hphase] at hticket
  | finishAttempt r =>
    obtain ⟨_, _, hphase, ⟨_, _, rfl⟩ | ⟨_, rfl⟩⟩ := finishAttempt?_eq_some h
    · exact Or.inl (by simpa [ticket?, hphase] using hticket)
    · exact Or.inl (by simpa [ticket?, hphase] using hticket)
  | resume =>
    obtain ⟨_, _, hphase, rfl⟩ := resume?_eq_some h
    exact Or.inl (by simpa [ticket?, hphase] using hticket)
  | publish =>
    obtain ⟨_, hphase, _⟩ := publish?_eq_some h
    simp [ticket?, hphase] at hticket

/-- What the loop does next with the ticket in hand, when attempts yield the given results by
    number and an execution is recorded at the given time. -/
def nextStep (j : Job) (result : UInt32 → AttemptResult) (now : Instant) : JobAction :=
  match j.phase with
  | .attempting _ n => .finishAttempt (result n)
  | .resting .. => .resume
  | .dormant | .waiting | .concluded .. | .recorded _ => .record now

end Job

namespace Manager

open Fleet

variable {m₀ m m' : Manager} {es fs : List Event} {a : Action} {t : Option Tick}
  {i k ticket : Nat} {j j' : Job}

/-- No action takes an execution away from a job but the record of that execution. -/
theorem ticketAt?_act? (hact : m.act? a = some (m', t))
    (hticket : m.fleet.ticketAt? i = some ticket) :
    m'.fleet.ticketAt? i = some ticket ∨ ∃ now, a = .job i (.record now) := by
  obtain ⟨j, hj, hj'⟩ := Option.bind_eq_some_iff.mp hticket
  obtain ⟨s, hs, rfl⟩ := job?_eq_some hj
  rcases act?_cases hact with ⟨_, hmove⟩ | ⟨now, _, _, _, _, hfleet⟩
  · rcases hmove.slot i with hsame | ⟨s', j₁, b, hs', hact', hb, hslot⟩
    · exact Or.inl (by rw [ticketAt?, job?, hsame, hs]; exact hj')
    · rw [hs] at hs'
      cases hs'
      rcases Job.ticket?_act? hact' hj' with hkeeps | ⟨now, rfl⟩
      · exact Or.inl (by rw [ticketAt?, job?, hslot]; exact hkeeps)
      · rcases hb with hspawn | hrecord
        · cases hspawn
        · exact Or.inr ⟨now, hrecord⟩
  · refine Or.inl ?_
    rw [ticketAt?, job?, hfleet, getElem?_tick_slots, hs]
    simp only [Option.map_some, Option.bind_some]
    split
    · rcases Job.ticket?_act? (a := .trigger) rfl hj' with hkeeps | ⟨_, hrecord⟩
      · exact hkeeps
      · cases hrecord
    · exact hj'

theorem Run.ticketAt? (hrun : m.Run fs m') (hticket : m.fleet.ticketAt? i = some ticket) :
    m'.fleet.ticketAt? i = some ticket ∨ ∃ e ∈ fs, ∃ now, e.action = .job i (.record now) := by
  induction hrun with
  | nil => exact Or.inl hticket
  | @snoc fs m₁ m' a t _ hact ih =>
    rcases ih with hkeeps | ⟨e, he, hrecord⟩
    · rcases ticketAt?_act? hact hkeeps with hkeeps' | ⟨now, rfl⟩
      · exact Or.inl hkeeps'
      · exact Or.inr ⟨_, List.mem_append_right _ (List.mem_singleton.mpr rfl), now, rfl⟩
    · exact Or.inr ⟨e, List.mem_append_left _ he, hrecord⟩

/-- An action that a job can take can be taken in its fleet. -/
theorem act?_job {b : JobAction} (hj : m.fleet.job? i = some j) (hact : j.act? b = some j') :
    ∃ m', m.act? (.job i b) = some (m', none) ∧ m'.fleet.job? i = some j' := by
  obtain ⟨s, hs, rfl⟩ := job?_eq_some hj
  refine ⟨{ m with fleet := m.fleet.update i fun _ => j' }, ?_, ?_⟩
  · simp [Manager.act?, actAt?, hj, hact]
  · rw [job?, getElem?_update_slots, hs]
    simp

/-- The execution of the job at a place can be played to its record by the job alone: in each step
    the job does what it does next. -/
def Recordable (m : Manager) (i ticket : Nat) (result : UInt32 → AttemptResult) (now : Instant) :
    Prop :=
  ∃ fs m', m.Run fs m' ∧
    (∀ e ∈ fs, ∃ j, e.before.job? i = some j ∧ j.ticket? = some ticket ∧
      e.action = .job i (j.nextStep result now)) ∧
    (fs.getLast?).map Event.action = some (.job i (.record now))

section Recordable

variable {result : UInt32 → AttemptResult} {now : Instant} {n : UInt32} {e : Execution}

/-- One step of the job, and then the others. -/
theorem Recordable.cons (next : Job) (hj : m.fleet.job? i = some j)
    (hticket : j.ticket? = some ticket) (hact : j.act? (j.nextStep result now) = some next)
    (h : ∀ m' : Manager, m'.fleet.job? i = some next → m'.Recordable i ticket result now) :
    m.Recordable i ticket result now := by
  obtain ⟨m₁, hact₁, hj₁⟩ := act?_job hj hact
  obtain ⟨fs, m', hrun, hsteps, hlast⟩ := h m₁ hj₁
  refine ⟨_ :: fs, m', (Run.nil.snoc hact₁).trans hrun, ?_, ?_⟩
  · intro e he
    rcases List.mem_cons.mp he with rfl | he
    · exact ⟨j, hj, hticket, rfl⟩
    · exact hsteps e he
  · cases fs with
    | nil => cases hlast
    | cons e rest => exact hlast

end Recordable

end Manager

end SyncFleet

/-
  SyncFleet/Proofs/Fleet/Pause.lean
  =================================
  **From a stop to the next start, and after the end, nothing is disturbed.**

  A manager is paused if its loop has ended, or waits while jobs are not
  admitted.  Then no action changes the queue, a time of admission or the store
  (`Paused.act?`).  A pause lasts until a command to start is taken
  (`Run.stopped`), and once the loop has ended nothing is taken any more
  (`Run.ended`).
-/
import SyncFleet.Proofs.Fleet.Books

namespace SyncFleet

open Calendar Control Storage

namespace Manager

open Fleet

variable {m : Manager}

/-! ### Nobody is admitted -/

/-- Whether the loop has ended, or waits without admitting jobs. -/
def Paused (m : Manager) : Prop :=
  m.loop = .ended ∨ (m.loop = .waiting ∧ m.desk.mode = .stopped)

/-- A paused loop has begun and saves nothing. -/
theorem Paused.calm (h : m.Paused) : m.loop ≠ .unstarted ∧ ∀ c, m.loop ≠ .saving c := by
  rcases h with hloop | ⟨hloop, _⟩
  · rw [hloop]
    exact ⟨nofun, nofun⟩
  · rw [hloop]
    exact ⟨nofun, nofun⟩

/-- Between the two nobody joined or left the queue, nobody was admitted and nothing was saved. -/
structure Undisturbed (m m' : Manager) : Prop where
  pending : m'.fleet.pending = m.fleet.pending
  invoked : ∀ i, m'.fleet.invokedAt? i = m.fleet.invokedAt? i
  store : m'.store = m.store

theorem Undisturbed.trans {m₁ m₂ m₃ : Manager} (h : m₁.Undisturbed m₂) (h' : m₂.Undisturbed m₃) :
    m₁.Undisturbed m₃ where
  pending := h'.pending.trans h.pending
  invoked := fun i => (h'.invoked i).trans (h.invoked i)
  store := h'.store.trans h.store

end Manager

/-- Whether the event is no tick that did anything, and neither begins nor ends a save. -/
structure Event.Idle (e : Event) : Prop where
  tick : e.tick = none
  built : e.built? = none
  saveEnd : e.saveEnd? = none

namespace Manager

open Fleet

variable {m₀ m m' : Manager} {es fs : List Event} {a : Action} {t : Option Tick} {i k : Nat}

/-- Where nobody is admitted an action disturbs nothing, and it leaves the loop ended if it was. -/
theorem Paused.act? (h : m.Paused) (hact : m.act? a = some (m', t)) :
    Event.Idle ⟨a, m.fleet, t⟩ ∧ m.Undisturbed m' ∧
      (m'.loop = m.loop ∨ (m.loop = .waiting ∧ m'.loop = .ended)) := by
  have htick : t = none ∧ m'.fleet.pending = m.fleet.pending := by
    rcases act?_cases hact with ⟨hnone, hmove⟩ | ⟨_, _, hwaits, hrunning, _⟩
    · exact ⟨hnone, hmove.pending⟩
    · rcases h with hends | ⟨_, hstopped⟩
      · rw [hends] at hwaits
        cases hwaits
      · rw [hstopped] at hrunning
        cases hrunning
  obtain ⟨rfl, hpending⟩ := htick
  rcases act?_saves hact with ⟨_, _, _, ⟨_, hloop, _⟩ | ⟨_, _, hsome, _⟩⟩ |
    ⟨_, _, _, _, hloop, _⟩ | ⟨hstart, hend, _, hstore, hloop, hinvoked⟩
  · exact absurd hloop h.calm.1
  · cases hsome
  · exact absurd hloop (h.calm.2 _)
  · refine ⟨⟨rfl, ?_, ?_⟩, ⟨hpending, hinvoked, hstore⟩, hloop⟩
    · cases a with
      | start now => exact absurd rfl (hstart now)
      | _ => rfl
    · cases a with
      | endSave succeeds => exact absurd rfl (hend succeeds)
      | _ => rfl

/-- Once the loop has ended it takes nothing more. -/
theorem Run.ended (hlater : m.Run fs m') (h : m.loop = .ended) :
    m'.loop = .ended ∧ m.Undisturbed m' ∧ m'.desk.mode = m.desk.mode ∧
      (∀ e ∈ fs, e.Idle) ∧ ∀ e ∈ fs, e.action ≠ .serve := by
  induction hlater with
  | nil => exact ⟨h, ⟨rfl, fun _ => rfl, rfl⟩, rfl, fun e he => absurd he List.not_mem_nil,
      fun e he => absurd he List.not_mem_nil⟩
  | @snoc fs m₁ m' a t _ hact ih =>
    obtain ⟨hends, hrest, hmode, hidle, hserve⟩ := ih
    obtain ⟨hidle', hrest', hloop⟩ := Paused.act? (Or.inl hends) hact
    have ha : a ≠ .serve := by
      rintro rfl
      have hwaits := (serve_cases hact).1
      rw [hends] at hwaits
      cases hwaits
    refine ⟨?_, hrest.trans hrest', (mode_act? hact ha).trans hmode, ?_, ?_⟩
    · rcases hloop with hsame | ⟨_, hends'⟩
      · exact hsame.trans hends
      · exact hends'
    · exact List.forall_mem_append.mpr ⟨hidle, List.forall_mem_singleton.mpr hidle'⟩
    · exact List.forall_mem_append.mpr ⟨hserve, List.forall_mem_singleton.mpr ha⟩

theorem foldl_modeAfter_stopped {l : List (Nat × ControlCommand)} (h : ∀ x ∈ l, x.2 ≠ .start) :
    l.foldl (fun mode x => Desk.modeAfter mode x.2) .stopped = .stopped := by
  induction l with
  | nil => rfl
  | cons x rest ih =>
    have hx : Desk.modeAfter .stopped x.2 = .stopped := by
      have hne := h x List.mem_cons_self
      cases hc : x.2 with
      | start => exact absurd hc hne
      | stop => rfl
      | exit => rfl
    rw [List.foldl_cons, hx]
    exact ih fun y hy => h y (List.mem_cons_of_mem _ hy)

/-- From a stop to the next command to start nothing is disturbed, and jobs are not admitted. -/
theorem Run.stopped (hrun : m₀.Run es m) (hdesk : m₀.desk = .initial) (hlater : m.Run fs m')
    (h : m.Paused) (hmode : m.desk.mode = .stopped) (hstart : ∀ x ∈ takenIn es fs, x.2 ≠ .start) :
    m'.desk.mode = .stopped ∧ m'.Paused ∧ m.Undisturbed m' ∧ ∀ e ∈ fs, e.Idle := by
  induction hlater with
  | nil => exact ⟨hmode, h, ⟨rfl, fun _ => rfl, rfl⟩, fun e he => absurd he List.not_mem_nil⟩
  | @snoc fs m₁ m' a t hfs hact ih =>
    rw [takenIn_snoc] at hstart
    obtain ⟨_, hpaused, hrest, hidle⟩ := ih fun x hx => hstart x (List.mem_append_left _ hx)
    obtain ⟨hidle', hrest', hloop⟩ := hpaused.act? hact
    have hmode' : m'.desk.mode = .stopped := by
      -- the mode is what the commands make of it that were taken since
      have hbooks := (kept_ledgerOf (es ++ (fs ++ [⟨a, m₁.fleet, t⟩]))).mode
      rw [((hrun.trans (hfs.snoc hact)).ledger_desk hdesk), taken_append, List.foldl_append,
        ← (kept_ledgerOf es).mode, hrun.ledger_desk hdesk, hmode, takenIn_snoc] at hbooks
      rw [hbooks]
      exact foldl_modeAfter_stopped hstart
    refine ⟨hmode', ?_, hrest.trans hrest', ?_⟩
    · rcases hloop with hsame | ⟨_, hends⟩
      · exact hpaused.imp hsame.trans fun hwaits => ⟨hsame.trans hwaits.1, hmode'⟩
      · exact Or.inl hends
    · exact List.forall_mem_append.mpr ⟨hidle, List.forall_mem_singleton.mpr hidle'⟩

end Manager

end SyncFleet

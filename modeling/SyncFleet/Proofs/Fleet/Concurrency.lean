/-
  SyncFleet/Proofs/Fleet/Concurrency.lean
  =======================================
  **How many jobs are busy at once.**

  The limit is kept by counting busy flags at each tick and by nothing else.
  `Fleet.CalmAt` ties the flag of a job to its open tickets and to the queue:
  the job is in step, and if it waits it is idle.  A place stays calm as long
  as nobody triggers its job by hand (`Run.calmAt`).  If nobody triggers any
  job, no more jobs than the limit are ever busy, and a tick that leaves
  somebody waiting leaves exactly so many jobs busy (`Run.concurrency_capped`).

  Triggers by hand can make any number of jobs busy.  A tick then admits
  nobody, so that it never makes matters worse.
-/
import SyncFleet.Proofs.Fleet.Queue

namespace SyncFleet

open Calendar Control

namespace Fleet

variable {a : Action} {f f' : Fleet} {now : Instant} {i : Nat}

/-! ### Calm places -/

/-- The job at a place is in step, and idle if it waits. -/
structure CalmAt (f : Fleet) (i : Nat) : Prop where
  inStep : ∀ s, f.slots[i]? = some s → s.job.InStep
  waits : i ∈ f.pending → f.isBusyAt i = false

/-- Without a trigger a calm place stays calm, and its job idle if it was. -/
theorem CalmAt.moved (h : f.CalmAt i) (hmove : Moved a f f') (ha : a ≠ .job i .trigger) :
    f'.CalmAt i ∧ (f.isBusyAt i = false → f'.isBusyAt i = false) := by
  rcases hmove.slot i with hsame | ⟨s, j', b, hs, hact, hb, hs'⟩
  · have hbusy : f'.isBusyAt i = f.isBusyAt i := by simp only [isBusyAt, job?, hsame]
    refine ⟨⟨fun s hs => h.inStep s (hsame ▸ hs), fun hi => ?_⟩, fun hidle => hbusy.trans hidle⟩
    exact hbusy.trans (h.waits (hmove.pending ▸ hi))
  · have hnot : b ≠ .trigger := moved_ne hb (by simp) ha
    obtain ⟨hstep, hidle⟩ := (h.inStep s hs).act? hact hnot
    have hkeeps : f.isBusyAt i = false → f'.isBusyAt i = false := by
      rw [isBusyAt_of_slot hs, isBusyAt_of_slot hs', Bool.not_eq_false', Bool.not_eq_false']
      exact hidle
    refine ⟨⟨fun s₁ hs₁ => ?_, fun hi => hkeeps (h.waits (hmove.pending ▸ hi))⟩, hkeeps⟩
    rw [hs'] at hs₁
    cases hs₁
    exact hstep

/-- Where a tick looks for jobs to admit, calm places hold idle jobs. -/
theorem CalmAt.idle_of_candidate (h : f.CalmAt i) (hi : i ∈ f.pending ++ f.joining now) :
    f.isBusyAt i = false := by
  rcases List.mem_append.mp hi with hi | hi
  · exact h.waits hi
  · exact isBusyAt_of_joining hi

theorem CalmAt.tick (h : f.CalmAt i) (hq : f.WellQueued) (now : Instant) :
    (f.tick now).1.CalmAt i := by
  constructor
  · intro s' hs'
    rw [getElem?_tick_slots] at hs'
    obtain ⟨s, hs, rfl⟩ := Option.map_eq_some_iff.mp hs'
    split
    · rename_i hadm
      have hidle := h.idle_of_candidate (List.mem_of_mem_take hadm)
      rw [isBusyAt_of_slot hs, Bool.not_eq_false'] at hidle
      obtain ⟨s₁, hs₁, hext⟩ := (hq.admitted now).2 i hadm
      rw [hs] at hs₁
      cases hs₁
      exact (h.inStep s hs).trigger hidle hext
    · exact h.inStep s hs
  · intro hi
    exact (hq.isBusyAt_tick hi).trans (h.idle_of_candidate (List.mem_of_mem_drop hi))

/-! ### New fleets -/

section Around

variable {limit : Nat} {jobs : List Job} {specs : List JobSpec} {c : Checkpoint} {s : Slot}

theorem atRest_around (hrest : ∀ job ∈ jobs, job.AtRest)
    (hs : s ∈ (around limit jobs c now).slots) : s.job.AtRest := by
  obtain ⟨job, hjob, rfl⟩ := List.mem_map.mp hs
  obtain ⟨finished, result, heq⟩ := exists_ofJob_job c now job
  rw [heq]
  exact (hrest job hjob).restore finished result

theorem atRest_restored (hs : s ∈ (restored limit specs c now).slots) : s.job.AtRest := by
  rw [restored_eq_around] at hs
  exact atRest_around (List.forall_mem_map.mpr fun spec _ => Job.atRest_new spec now) hs

/-- Where all jobs are at rest all places are calm, and nobody is busy. -/
theorem calmAt_of_atRest (hrest : ∀ s ∈ f.slots, s.job.AtRest) (i : Nat) :
    f.CalmAt i ∧ f.isBusyAt i = false := by
  have hidle : f.isBusyAt i = false := by
    refine Bool.eq_false_iff.mpr fun hbusy => ?_
    obtain ⟨s, hs, hjob⟩ := isBusyAt_iff.mp hbusy
    rw [(hrest s (List.mem_of_getElem? hs)).idle] at hjob
    cases hjob
  exact ⟨⟨fun s hs => (hrest s (List.mem_of_getElem? hs)).inStep, fun _ => hidle⟩, hidle⟩

theorem calmAt_restored (limit : Nat) (specs : List JobSpec) (c : Checkpoint) (now : Instant)
    (i : Nat) : (restored limit specs c now).CalmAt i :=
  (calmAt_of_atRest (fun _ => atRest_restored) i).1

end Around

/-! ### Occupied jobs -/

/-- The number of jobs that are executing or hold a ticket that waits for them. -/
def occupiedCount (f : Fleet) : Nat :=
  f.slots.countP fun s => s.job.isExecuting || !s.job.inbox.isEmpty

theorem occupiedCount_eq (h : ∀ i, f.CalmAt i) : f.occupiedCount = f.busyCount := by
  unfold occupiedCount busyCount
  refine List.countP_congr fun s hs => ?_
  obtain ⟨i, hi⟩ := List.mem_iff_getElem?.mp hs
  rw [((h i).inStep s hi).occupied_iff]

/-- Moves make no job busy as long as nobody triggers one. -/
theorem busyCount_moved (h : ∀ i, f.CalmAt i) (hmove : Moved a f f')
    (ha : ∀ i, a ≠ .job i .trigger) : f'.busyCount ≤ f.busyCount := by
  rw [busyCount_eq_card, busyCount_eq_card]
  refine Finset.card_le_card fun i hi => ?_
  rw [mem_busyPlaces] at hi ⊢
  refine Bool.eq_true_of_not_eq_false fun hidle => ?_
  rw [((h i).moved hmove (ha i)).2 hidle] at hi
  cases hi

/-- In a calm fleet a tick that leaves somebody waiting uses the limit up. -/
theorem busyCount_tick_eq (h : ∀ i, f.CalmAt i) (hq : f.WellQueued) (hle : f.busyCount ≤ f.limit)
    (hwaits : (f.tick now).1.pending ≠ []) : (f.tick now).1.busyCount = f.limit := by
  have hidle : ∀ i ∈ (f.tick now).2.admitted, f.isBusyAt i = false := fun i hi =>
    (h i).idle_of_candidate (List.mem_of_mem_take hi)
  obtain ⟨hnodup, hadm⟩ := hq.admitted now
  have hfull : (f.tick now).2.admitted.length = f.budget := by
    rw [tick_pending, Ne, List.drop_eq_nil_iff] at hwaits
    rw [tick_admitted, List.length_take]
    omega
  rw [busyCount_tick hadm hidle hnodup, hfull, budget]
  omega

end Fleet

namespace Manager

open Fleet

variable {m₀ m m' : Manager} {es : List Event} {i : Nat}

/-! ### Runs without manual triggers -/

/-- A place stays calm as long as nobody triggers its job by hand. -/
theorem Run.calmAt (hrun : m₀.Run es m) (hq : m₀.fleet.WellQueued) (h : m₀.fleet.CalmAt i)
    (hun : Unprompted i es) : m.fleet.CalmAt i := by
  induction hrun with
  | nil => exact h
  | @snoc es m m' a t hrun hact ih =>
    obtain ⟨hes, hlast⟩ := unprompted_append.mp hun
    rcases act?_cases hact with ⟨_, hmove⟩ | ⟨now, _, _, _, _, hfleet⟩
    · exact ((ih hes).moved hmove (hlast _ (List.mem_singleton.mpr rfl))).1
    · rw [hfleet]
      exact (ih hes).tick (hrun.wellQueued hq) now

theorem Run.busyCount_le (hrun : m₀.Run es m) (hq : m₀.fleet.WellQueued)
    (h : ∀ i, m₀.fleet.CalmAt i) (hle : m₀.fleet.busyCount ≤ m₀.fleet.limit)
    (hun : ∀ i, Unprompted i es) : m.fleet.busyCount ≤ m.fleet.limit := by
  induction hrun with
  | nil => exact hle
  | @snoc es m m' a t hrun hact ih =>
    have hes : ∀ i, Unprompted i es := fun i => (unprompted_append.mp (hun i)).1
    have hbusy := ih hes
    rcases act?_cases hact with ⟨_, hmove⟩ | ⟨now, _, _, _, _, hfleet⟩
    · have hcalm : ∀ i, m.fleet.CalmAt i := fun i => hrun.calmAt hq (h i) (hes i)
      have ha : ∀ i, a ≠ .job i .trigger := fun i =>
        (unprompted_append.mp (hun i)).2 _ (List.mem_singleton.mpr rfl)
      rw [hmove.limit]
      exact (busyCount_moved hcalm hmove ha).trans hbusy
    · have htick := busyCount_tick_le m.fleet now
      rw [hfleet, tick_limit]
      omega

@[simp]
theorem busyCount_restored (limit : Nat) (specs : List JobSpec) (c : Checkpoint) (now : Instant) :
    (restored limit specs c now).busyCount = 0 := by
  unfold busyCount
  rw [List.countP_eq_zero]
  intro s hs
  rw [(atRest_restored hs).idle]
  exact Bool.false_ne_true

section NewManager

variable {limit : Nat} {specs : List JobSpec} {c : Checkpoint} {now : Instant}
  {store : Storage.MemoryStore}

/-- **The limit is kept and no slot is wasted.**  As long as nobody triggers a job by hand, at most
    `limit` jobs are executing or hold a ticket, and after each tick that admits jobs nobody waits
    or exactly `limit` jobs are busy.  Whatever is triggered by hand, no tick leaves more jobs busy
    than the limit, or than it found. -/
theorem Run.concurrency_capped (hrun : (ofFleet (.restored limit specs c now) store).Run es m) :
    ((∀ i, Unprompted i es) → m.fleet.occupiedCount ≤ limit) ∧
      ∀ time m' t, m.act? (.tick time) = some (m', t) →
        ((∀ i, Unprompted i es) → m.desk.mode = .running →
          m'.fleet.pending = [] ∨ m'.fleet.busyCount = limit) ∧
        m'.fleet.busyCount ≤ max limit m.fleet.busyCount := by
  have hq := wellQueued_restored limit specs c now
  have hlimit : m.fleet.limit = limit := hrun.specs.2
  have hcalm : (∀ i, Unprompted i es) → ∀ i, m.fleet.CalmAt i := fun hun i =>
    hrun.calmAt hq (calmAt_restored limit specs c now i) (hun i)
  have hbusy : (∀ i, Unprompted i es) → m.fleet.busyCount ≤ limit := fun hun =>
    hlimit ▸ hrun.busyCount_le hq (calmAt_restored limit specs c now)
      (busyCount_restored limit specs c now ▸ Nat.zero_le _) hun
  refine ⟨fun hun => occupiedCount_eq (hcalm hun) ▸ hbusy hun, fun time m' t hact => ?_⟩
  obtain ⟨_, ⟨_, _, hfleet, _⟩ | ⟨hstopped, _, rfl⟩⟩ := tick?_cases hact
  · rw [hfleet]
    refine ⟨fun hun _ => ?_, hlimit ▸ busyCount_tick_le m.fleet time⟩
    by_cases hwaits : (m.fleet.tick time).1.pending = []
    · exact Or.inl hwaits
    · exact Or.inr (hlimit ▸ busyCount_tick_eq (hcalm hun) (hrun.wellQueued hq)
        (hlimit ▸ hbusy hun) hwaits)
  · refine ⟨fun _ hrunning => ?_, Nat.le_max_right _ _⟩
    rw [hstopped] at hrunning
    cases hrunning

end NewManager

/-- Two of four jobs are busy at all times while others wait. -/
theorem quartet_concurrency_capped :
    let r := (quartet.play? quartetActions).get rfl
    quartet.Run r.1 r.2 ∧ (∀ i, Unprompted i r.1) ∧ r.2.fleet.pending = [3] ∧
      r.2.fleet.occupiedCount ≤ 2 := by
  intro r
  have hrun : quartet.Run r.1 r.2 := run_played rfl
  have hactions : r.1.map Event.action = quartetActions := rfl
  have hun : ∀ i, Unprompted i r.1 := by
    intro i e he htrigger
    have hmem : Action.job i .trigger ∈ quartetActions :=
      hactions ▸ htrigger ▸ List.mem_map_of_mem he
    simp [quartetActions] at hmem
  exact ⟨hrun, hun, rfl, hrun.concurrency_capped.1 hun⟩

end Manager

end SyncFleet

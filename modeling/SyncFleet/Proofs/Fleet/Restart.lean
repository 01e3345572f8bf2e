/-
  SyncFleet/Proofs/Fleet/Restart.lean
  ===================================
  **A restart resumes the schedule.**

  The queue is not part of a checkpoint, so whoever waits is forgotten by a
  restart and has to become due again from the time that is noted for it.
  `Lives.stored` says that a waiting decision loop has these times in its
  store; a manager that is built from the store, for the same jobs in any
  order, has them at the new places of the jobs.

  Up to its first tick a new manager keeps what it was built with
  (`Run.untouched`), so that this tick queues the jobs that are due, and
  `mem_joining_iff` says which these are.  Whoever waited in the old manager
  was due at an earlier tick, and on a clock is due still
  (`Lives.restart_resumes`).  Among leap seconds it need not be: a job found due
  just before midnight may be forgotten and not found due just after it
  (`due_job_lost_to_leap_second`).
-/
import SyncFleet.Proofs.Fleet.Concurrency
import SyncFleet.Proofs.Fleet.Spacing

namespace SyncFleet

open Calendar Storage

/-- The places in the queue during a tick, when those that are due have joined and nobody has been
    admitted yet. -/
def Fleet.candidates (f : Fleet) (now : Instant) : List Nat := f.pending ++ (f.tick now).2.queued

namespace Manager

open Fleet

variable {specs specs' : List JobSpec} {store : MemoryStore} {es : List Event} {m₀ m m' : Manager}
  {i k : Nat} {spec : JobSpec}

/-! ### What the store has -/

@[simp]
theorem opened_specs (limit : Nat) (specs : List JobSpec) (store : MemoryStore) (now : Instant) :
    (opened limit specs store now).fleet.specs = specs :=
  restored_specs limit specs _ now

/-- What is kept is what is noted, once the manager was started. -/
theorem Lives.stored (h : Lives specs store es m) (hnodup : (specs.map JobSpec.name).Nodup)
    (hspec : specs[i]? = some spec) :
    m.loop ≠ .unstarted → m.kept.lastInvoke? spec.name = m.fleet.invokedAt? i := by
  induction h with
  | first limit now => exact fun hnew => absurd rfl hnew
  | again limit now _ _ _ => exact fun hnew => absurd rfl hnew
  | act hlives hact ha ih =>
    have hspecs := (hlives.act hact ha).fleet_specs
    exact stored_act? ih (hspecs ▸ hnodup) (hspecs ▸ hspec) hact ha

/-- A manager that is built again has at each place the time that was noted for the job there. -/
theorem Lives.invokedAt?_reopened (h : Lives specs store es m)
    (hnodup : (specs.map JobSpec.name).Nodup) (hloop : m.loop = .waiting)
    (hspec : specs[i]? = some spec) (hspec' : specs'[k]? = some spec) (limit : Nat)
    (now : Instant) :
    (opened limit specs' m.store now).fleet.invokedAt? k = m.fleet.invokedAt? i := by
  obtain ⟨last, hlast⟩ := invokedAt?_of_spec (h.fleet_specs ▸ hspec)
  have hstored := h.stored hnodup hspec (ne_unstarted_of_waiting hloop)
  rw [kept_of_waiting hloop, hlast] at hstored
  rw [hlast]
  exact invokedAt?_restored hspec' hstored

/-- It has the same times by name, in whatever order its jobs come. -/
theorem Lives.lastInvoke?_reopened (h : Lives specs store es m)
    (hnodup : (specs.map JobSpec.name).Nodup) (hloop : m.loop = .waiting)
    (hperm : specs'.Perm specs) (limit : Nat) (now : Instant) (name : String) :
    (opened limit specs' m.store now).fleet.lastInvoke? name = m.fleet.lastInvoke? name := by
  obtain rfl := h.fleet_specs
  have hspecs' := opened_specs limit specs' m.store now
  refine lastInvoke?_congr hnodup (hspecs'.symm ▸ hperm) (fun i k spec hspec hspec' => ?_) name
  rw [hspecs'] at hspec'
  exact h.invokedAt?_reopened hnodup hloop hspec hspec' limit now

/-! ### Before the first tick -/

/-- As long as no tick has done anything, queue and times of admission are as they were, and a
    calm and idle job that nobody triggers stays calm and idle. -/
theorem Run.untouched (hrun : m₀.Run es m) (hnone : ∀ e ∈ es, e.tick = none) :
    m.fleet.pending = m₀.fleet.pending ∧
      (∀ i, m.fleet.invokedAt? i = m₀.fleet.invokedAt? i) ∧
      ∀ i, m₀.fleet.CalmAt i → m₀.fleet.isBusyAt i = false → Unprompted i es →
        m.fleet.CalmAt i ∧ m.fleet.isBusyAt i = false := by
  induction hrun with
  | nil => exact ⟨rfl, fun _ => rfl, fun _ hcalm hidle _ => ⟨hcalm, hidle⟩⟩
  | @snoc es m m' a t hrun hact ih =>
    obtain ⟨hpending, hinvoked, hcalm⟩ := ih fun e he => hnone e (List.mem_append_left _ he)
    have htick : t = none := hnone ⟨a, m.fleet, t⟩ (by simp)
    rcases act?_cases hact with ⟨_, hmove⟩ | ⟨_, _, _, _, hsome, _⟩
    · refine ⟨hmove.pending.trans hpending, fun i => (hmove.invokedAt? i).trans (hinvoked i),
        fun i hcalm₀ hidle₀ hun => ?_⟩
      obtain ⟨hes, hlast⟩ := unprompted_append.mp hun
      obtain ⟨hcalm', hidle'⟩ := hcalm i hcalm₀ hidle₀ hes
      obtain ⟨hcalm'', hkeeps⟩ := hcalm'.moved hmove (hlast ⟨a, m.fleet, t⟩ (by simp))
      exact ⟨hcalm'', hkeeps hidle'⟩
    · rw [htick] at hsome
      cases hsome

/-- In a new manager nobody is busy before the first tick but jobs that were triggered. -/
theorem Run.idle_before_first {limit : Nat} {c : Checkpoint} {now : Instant}
    (hrun : (ofFleet (.restored limit specs c now) store).Run es m)
    (hnone : ∀ e ∈ es, e.tick = none) (hun : Unprompted k es) : m.fleet.isBusyAt k = false := by
  obtain ⟨hcalm, hidle⟩ : (Fleet.restored limit specs c now).CalmAt k ∧ _ :=
    calmAt_of_atRest (fun _ => atRest_restored) k
  exact ((hrun.untouched hnone).2.2 k hcalm hidle hun).2

/-- The first tick of a new manager queues an idle job if it is due and not looked after
    elsewhere. -/
theorem Run.mem_first_joining {limit : Nat} {now t : Instant}
    (hrun : (opened limit specs store now).Run es m) (hnone : ∀ e ∈ es, e.tick = none)
    (hspec : specs[k]? = some spec) :
    k ∈ m.fleet.joining t ↔ m.fleet.isBusyAt k = false ∧ spec.external = false ∧
      ∃ last, (opened limit specs store now).fleet.invokedAt? k = some last ∧
        t.exceeds last spec.interval = true := by
  have hspecs : m.fleet.specs = specs :=
    hrun.specs.1.trans (opened_specs limit specs store now)
  obtain ⟨hpending, hinvoked, _⟩ := hrun.untouched hnone
  have hwaits : k ∉ m.fleet.pending := hpending ▸ List.not_mem_nil
  rw [mem_joining_iff (hspecs ▸ hspec), hinvoked]
  exact ⟨fun ⟨hidle, hext, _, hdue⟩ => ⟨hidle, hext, hdue⟩,
    fun ⟨hidle, hext, hdue⟩ => ⟨hidle, hext, hwaits, hdue⟩⟩

/-! ### Who waits or joins -/

/-- An idle job that is due waits or joins, unless it is looked after elsewhere. -/
theorem candidate_of_due {f : Fleet} {last now : Instant} (hspec : f.specs[i]? = some spec)
    (hidle : f.isBusyAt i = false) (hext : spec.external = false)
    (hlast : f.invokedAt? i = some last) (hdue : now.exceeds last spec.interval = true) :
    i ∈ f.candidates now := by
  rw [candidates, List.mem_append]
  by_cases hwaits : i ∈ f.pending
  · exact Or.inl hwaits
  · exact Or.inr ((mem_joining_iff hspec).mpr ⟨hidle, hext, hwaits, last, hlast, hdue⟩)

/-- Whoever waits or joins at a tick is run here and was due by then, if ticks do not go back in
    time. -/
theorem Lives.dueBy_of_candidate {t : Instant} (h : Lives specs store es m)
    (hnodup : (specs.map JobSpec.name).Nodup) (hspec : specs[i]? = some spec)
    (hmono : (tickTimes es ++ [t]).Pairwise fun t₁ t₂ => t₁.le t₂ = true)
    (hi : i ∈ m.fleet.candidates t) :
    spec.external = false ∧ ∃ last, m.fleet.invokedAt? i = some last ∧
      DueBy (tickTimes es ++ [t]) spec.interval last t := by
  have hspecs := h.fleet_specs
  obtain ⟨hbefore, _, hlast⟩ := List.pairwise_append.mp hmono
  constructor
  · obtain ⟨limit, store', now, es', hrun⟩ := h.run
    have hq := hrun.wellQueued (wellQueued_restored limit specs _ now)
    obtain ⟨spec', hspec', hext⟩ := (hq.candidates t).2 i hi
    rw [hspecs, hspec] at hspec'
    exact Option.some.inj hspec' ▸ hext
  · have hpaced := h.paced hnodup hspec hbefore
    obtain ⟨due, hmem, last, hinvoked, hdue⟩ := hpaced.due_of_candidate (hspecs ▸ hspec) hi
    refine ⟨last, hinvoked, due, hmem, hdue, ?_⟩
    rcases List.mem_append.mp hmem with hticked | hnow
    · exact hlast due hticked t (List.mem_singleton.mpr rfl)
    · exact List.mem_singleton.mp hnow ▸ Instant.le_refl due

/-- **A restart resumes the schedule.**  Drop a manager whose decision loop waits and whose saves
    all succeeded, and build a new one from its store for the same jobs in any order.  The new one
    has every job's time of admission.  Let a tick come at a time when no earlier tick has done
    anything in the new manager; nobody is busy there but jobs that were triggered by hand.  Of the
    jobs that were idle in the old manager the tick queues none that would not wait or join at that
    time in the old one.  Outside leap seconds it queues all of these that are idle; in leap
    seconds, one that it misses lacks less than two seconds of its interval, and less than one on a
    clock. -/
theorem Lives.restart_resumes (h : Lives specs store es m)
    (hspecs : distinctJobs specs = .ok specs) (hloop : m.loop = .waiting)
    (hperm : specs'.Perm specs) (limit : Nat) (now : Instant) :
    distinctJobs specs' = .ok specs' ∧
    (∀ name, (opened limit specs' m.store now).fleet.lastInvoke? name =
      m.fleet.lastInvoke? name) ∧
    ∀ (fs : List Event) (m' : Manager) (t : Instant),
      (opened limit specs' m.store now).Run fs m' → (∀ e ∈ fs, e.tick = none) →
      (tickTimes es ++ [t]).Pairwise (fun t₁ t₂ => t₁.le t₂ = true) →
      ∀ (i k : Nat) (spec : JobSpec), specs[i]? = some spec → specs'[k]? = some spec →
        m.fleet.isBusyAt i = false →
        (Unprompted k fs → m'.fleet.isBusyAt k = false) ∧
        (k ∈ (m'.fleet.tick t).2.queued → i ∈ m.fleet.candidates t) ∧
        (i ∈ m.fleet.candidates t → ∃ last, m.fleet.invokedAt? i = some last ∧
          (spec.interval : Int) * nanosPerSecond < t.nanosSince last + 2 * nanosPerSecond ∧
          ((∀ u ∈ tickTimes es ++ [t], u.isClockReading = true) →
            (spec.interval : Int) * nanosPerSecond < t.nanosSince last + nanosPerSecond ∧
            (last.isClockReading = true → m'.fleet.isBusyAt k = false →
              k ∈ (m'.fleet.tick t).2.queued))) := by
  have hnodup := (distinctJobs_nodup hspecs).2
  refine ⟨distinctJobs_of_nodup ((hperm.map JobSpec.name).nodup_iff.mpr hnodup),
    h.lastInvoke?_reopened hnodup hloop hperm limit now, ?_⟩
  intro fs m' t hrun hnone hmono i k spec hspec hspec' hidle
  have hkept := h.invokedAt?_reopened hnodup hloop hspec hspec' limit now
  have hjoining := hrun.mem_first_joining (t := t) hnone hspec'
  rw [hkept] at hjoining
  rw [tick_queued, hjoining]
  refine ⟨hrun.idle_before_first hnone, ?_, fun hi => ?_⟩
  · rintro ⟨_, hext, last, hlast, hdue⟩
    exact candidate_of_due (h.fleet_specs ▸ hspec) hidle hext hlast hdue
  · obtain ⟨hext, last, hlast, hdue⟩ := h.dueBy_of_candidate hnodup hspec hmono hi
    have ht : t ∈ tickTimes es ++ [t] := List.mem_append_right _ (List.mem_singleton.mpr rfl)
    exact ⟨last, hlast, hdue.lt_add_two, fun hclock => ⟨hdue.lt_add hclock ht,
      fun hreading hidle' => ⟨hidle', hext, last, hlast, hdue.exceeds hclock hreading ht⟩⟩⟩

/-! ### A restart at midnight -/

/-- A new manager that is started and has saved its checkpoint is ready for its first tick. -/
theorem started_run (m : Manager) (hloop : m.loop = .unstarted) (now : Instant) :
    ∃ fs m', m.Run fs m' ∧ (∀ e ∈ fs, e.tick = none) ∧ (∀ i, Unprompted i fs) ∧
      m'.loop = .waiting ∧ m'.fleet = (m.start now).fleet := by
  have hstart : m.act? (.start now) = some (m.start now, none) := by rw [act?, hloop]
  have hrun := (Run.nil.snoc hstart).snoc (a := .endSave true) rfl
  exact ⟨_, _, hrun, by simp, by simp [Unprompted], rfl, rfl⟩

/-- The first job is admitted at noon and due again in the leap second before midnight, when the
    second one has just been admitted. -/
def leapWait : List Action :=
  firstAdmitted noon ++
    [.tick (noon.addMillis 1000), .endSave true, .tick midnightLeap, .endSave true]

/-- Leap seconds can make a restart lose a job that waits: one in the checkpoint does, even on a
    clock, and one among the tick times does, even without a checkpoint. -/
theorem due_job_lost_to_leap_second :
    (¬ ∀ (specs : List JobSpec) (store : MemoryStore) (es fs : List Event) (m m' : Manager)
        (limit : Nat) (now t : Instant) (i : Nat),
      Lives specs store es m → distinctJobs specs = .ok specs → m.loop = .waiting →
        (opened limit specs m.store now).Run fs m' → (∀ e ∈ fs, e.tick = none) →
        (tickTimes es ++ [t]).Pairwise (fun t₁ t₂ => t₁.le t₂ = true) →
        (∀ u ∈ tickTimes es ++ [t], u.isClockReading = true) → Unprompted i fs →
        m.fleet.isBusyAt i = false → i ∈ m.fleet.candidates t → i ∈ (m'.fleet.tick t).2.queued) ∧
    ¬ ∀ (specs : List JobSpec) (es fs : List Event) (m m' : Manager) (limit : Nat)
        (now t : Instant) (i : Nat),
      Lives specs (.holding none) es m → distinctJobs specs = .ok specs → m.loop = .waiting →
        (opened limit specs m.store now).Run fs m' → (∀ e ∈ fs, e.tick = none) →
        (tickTimes es ++ [t]).Pairwise (fun t₁ t₂ => t₁.le t₂ = true) → Unprompted i fs →
        m.fleet.isBusyAt i = false → i ∈ m.fleet.candidates t →
          i ∈ (m'.fleet.tick t).2.queued := by
  constructor
  · intro hclaim
    have hopened : Lives (pair 3600 43140) leapStore [] _ := .first 1 beforeMidnight
    have hlives := hopened.played (firstAdmitted beforeMidnight) rfl
      (by simp [firstAdmitted, execution])
    obtain ⟨fs, m', hrun, hnone, hun, _, hfleet⟩ :=
      started_run (opened 1 (pair 3600 43140) _ midnight) rfl midnight
    have hlost := hclaim _ _ _ fs _ m' 1 midnight midnight 1 hlives rfl rfl hrun hnone (by decide)
      (by decide) (hun 1) (by decide) (by decide)
    rw [hfleet] at hlost
    exact absurd hlost (by decide)
  · intro hclaim
    have hopened : Lives (pair 43200 3600) (.holding none) [] _ := .first 1 noon
    have hlives := hopened.played leapWait rfl (by simp [leapWait, firstAdmitted, execution])
    obtain ⟨fs, m', hrun, hnone, hun, _, hfleet⟩ :=
      started_run (opened 1 (pair 43200 3600) _ midnight) rfl midnight
    have hlost := hclaim _ _ fs _ m' 1 midnight midnight 0 hlives rfl rfl hrun hnone (by decide)
      (hun 0) (by decide) (by decide)
    rw [hfleet] at hlost
    exact absurd hlost (by decide)

/-- The second job, which waits at noon for a first place, is queued at midnight by a manager whose
    jobs come the other way round. -/
theorem reversed_restart_resumes :
    ∃ es m fs m', Lives (pair 43200 3600) (.holding none) es m ∧ m.loop = .waiting ∧
      1 ∈ m.fleet.pending ∧ (opened 2 (pair 43200 3600).reverse m.store midnight).Run fs m' ∧
      0 ∈ (m'.fleet.tick midnight).2.queued := by
  have hopened : Lives (pair 43200 3600) (.holding none) [] _ := .first 1 noon
  have hlives := hopened.played (firstAdmitted noon) rfl (by simp [firstAdmitted, execution])
  obtain ⟨fs, m', hrun, hnone, hun, _⟩ :=
    started_run (opened 2 (pair 43200 3600).reverse _ midnight) rfl midnight
  obtain ⟨_, _, hresumes⟩ :=
    hlives.restart_resumes rfl rfl (List.reverse_perm _) 2 midnight
  obtain ⟨hidle, _, hqueued⟩ :=
    hresumes fs m' midnight hrun hnone (by decide) 1 0 _ rfl rfl (by decide)
  obtain ⟨last, hlast, _, hclock⟩ := hqueued (by decide)
  have hreading : (Option.all Instant.isClockReading (some last)) = true := by
    rw [← hlast]
    decide
  have hqueued' := (hclock (by decide)).2 hreading (hidle (hun 0))
  exact ⟨_, _, fs, m', hlives, rfl, by decide, hrun, hqueued'⟩

end Manager

end SyncFleet

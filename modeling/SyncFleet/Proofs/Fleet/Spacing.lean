/-
  SyncFleet/Proofs/Fleet/Spacing.lean
  ===================================
  **Admissions of a job are more than its interval apart, restarts or not.**

  A job joins the queue when its interval has elapsed since the time that is
  noted for it, and may be admitted much later.  `Paced` is what holds in all
  lives: the noted time is that of the last admission, or the one that the
  first checkpoint had; whoever waits was due at an earlier tick; and what is
  kept for a restart is what is noted.

  So between two admissions there is a tick at which the job was due, no later
  than the second one (`DueBy`).  On a clock that never goes back this makes
  them more than the interval apart (`Lives.admissions_spaced`).  Only a leap
  second can spoil it: the time since an instant in a leap second is one second
  less after midnight than before.  Clocks never show leap seconds, but the
  checkpoint with which the first life begins may contain one
  (`spacing_lost_to_leap_second`).
-/
import Mathlib.Data.List.Chain
import SyncFleet.Proofs.Calendar.Elapsed
import SyncFleet.Proofs.Fleet.Lives

namespace SyncFleet

open Calendar Storage

/-- Whether more than an interval had elapsed since one instant at some tick no later than another
    instant. -/
def DueBy (ticks : List Instant) (interval : Nat) (t₁ t₂ : Instant) : Prop :=
  ∃ due ∈ ticks, due.exceeds t₁ interval = true ∧ due.le t₂ = true

section DueBy

variable {ticks : List Instant} {interval : Nat} {t₁ t₂ : Instant}

theorem DueBy.append (h : DueBy ticks interval t₁ t₂) (more : List Instant) :
    DueBy (ticks ++ more) interval t₁ t₂ := by
  obtain ⟨due, hmem, hdue⟩ := h
  exact ⟨due, List.mem_append_left _ hmem, hdue⟩

/-- On a clock, what was due is still due later. -/
theorem DueBy.exceeds (h : DueBy ticks interval t₁ t₂)
    (hclock : ∀ t ∈ ticks, t.isClockReading = true) (ht₁ : t₁.isClockReading = true)
    (ht₂ : t₂ ∈ ticks) : t₂.exceeds t₁ interval = true := by
  obtain ⟨due, hmem, hexceeds, hle⟩ := h
  rw [Instant.exceeds_iff] at hexceeds ⊢
  exact lt_of_lt_of_le hexceeds (Instant.nanosSince_le hle (hclock due hmem) (hclock t₂ ht₂) ht₁)

/-- After a leap second, less than a second is lost on a clock. -/
theorem DueBy.lt_add (h : DueBy ticks interval t₁ t₂)
    (hclock : ∀ t ∈ ticks, t.isClockReading = true) (ht₂ : t₂ ∈ ticks) :
    (interval : Int) * nanosPerSecond < t₂.nanosSince t₁ + nanosPerSecond := by
  obtain ⟨due, hmem, hexceeds, hle⟩ := h
  rw [Instant.exceeds_iff] at hexceeds
  exact lt_trans hexceeds (Instant.nanosSince_lt_add hle (hclock due hmem) (hclock t₂ ht₂))

theorem DueBy.lt_add_two (h : DueBy ticks interval t₁ t₂) :
    (interval : Int) * nanosPerSecond < t₂.nanosSince t₁ + 2 * nanosPerSecond := by
  obtain ⟨due, _, hexceeds, hle⟩ := h
  rw [Instant.exceeds_iff] at hexceeds
  exact lt_trans hexceeds (Instant.nanosSince_lt_add_two hle)

end DueBy

namespace Manager

open Fleet

/-- The times of a job, of which the last one is noted, when the tick times are those given: it
    waits only if it was due, each time but the first was preceded by a tick at which it was due,
    and a restart would find the last one. -/
structure Paced (m : Manager) (i : Nat) (spec : JobSpec) (times ticks : List Instant) : Prop where
  noted : ∀ t ∈ times.getLast?, m.fleet.invokedAt? i = some t
  waits : i ∈ m.fleet.pending → ∃ due ∈ ticks, ∃ t, m.fleet.invokedAt? i = some t ∧
    due.exceeds t spec.interval = true
  stored : m.loop ≠ .unstarted → m.kept.lastInvoke? spec.name = m.fleet.invokedAt? i
  chain : times.IsChain (DueBy ticks spec.interval)

variable {m m' : Manager} {i : Nat} {spec : JobSpec} {times ticks : List Instant} {a : Action}
  {t : Option Tick} {specs : List JobSpec}

/-! ### Construction -/

/-- A new manager notes the time that the store has. -/
theorem paced_opened (limit : Nat) (store : MemoryStore) (now : Instant)
    (hspec : specs[i]? = some spec) (hchain : times.IsChain (DueBy ticks spec.interval))
    (hstore : ∀ t ∈ times.getLast?, (restorable store.load).lastInvoke? spec.name = some t) :
    (opened limit specs store now).Paced i spec times ticks where
  noted t ht := invokedAt?_restored hspec (hstore t ht)
  waits hi := absurd hi List.not_mem_nil
  stored hloop := absurd rfl hloop
  chain := hchain

/-- A restart finds what is noted. -/
theorem Paced.again (h : m.Paced i spec times ticks) (hspec : specs[i]? = some spec)
    (hloop : m.loop = .waiting ∨ m.loop = .ended) (limit : Nat) (now : Instant) :
    (opened limit specs m.store now).Paced i spec times ticks := by
  refine paced_opened limit m.store now hspec h.chain fun t ht => ?_
  have hstored : m.kept.lastInvoke? spec.name = m.fleet.invokedAt? i := by
    refine h.stored fun hnew => ?_
    rcases hloop with hloop | hloop <;> rw [hloop] at hnew <;> cases hnew
  have hkept : m.kept = restorable m.store.load :=
    hloop.elim kept_of_waiting kept_of_ended
  rw [← hkept, hstored]
  exact h.noted t ht

/-! ### Actions -/

/-- What is kept follows what is noted. -/
theorem stored_act?
    (hstored : m.loop ≠ .unstarted → m.kept.lastInvoke? spec.name = m.fleet.invokedAt? i)
    (hnodup : (m'.fleet.specs.map JobSpec.name).Nodup) (hspec : m'.fleet.specs[i]? = some spec)
    (hact : m.act? a = some (m', t)) (ha : a ≠ .endSave false) (hloop : m'.loop ≠ .unstarted) :
    m'.kept.lastInvoke? spec.name = m'.fleet.invokedAt? i := by
  rcases kept_act? hact ha with ⟨now, hkept⟩ | ⟨hkept, hnew, hinvoked⟩
  · rw [hkept]
    exact lastInvoke?_checkpoint hnodup hspec now
  · rw [hkept, hinvoked]
    exact hstored fun hloop' => hloop (hnew hloop')

/-- Whoever waits or joins at a tick was due at this tick or an earlier one. -/
theorem Paced.due_of_candidate {now : Instant} (h : m.Paced i spec times ticks)
    (hspec : m.fleet.specs[i]? = some spec) (hi : i ∈ m.fleet.pending ++ m.fleet.joining now) :
    ∃ due ∈ ticks ++ [now], ∃ t, m.fleet.invokedAt? i = some t ∧
      due.exceeds t spec.interval = true := by
  rcases List.mem_append.mp hi with hi | hi
  · obtain ⟨due, hmem, hdue⟩ := h.waits hi
    exact ⟨due, List.mem_append_left _ hmem, hdue⟩
  · exact ⟨now, by simp, exceeds_of_joining hspec hi⟩

/-- A tick admits a job only if the job was due. -/
theorem Paced.tick {now : Instant} (h : m.Paced i spec times ticks) (hq : m.fleet.WellQueued)
    (hspec : m.fleet.specs[i]? = some spec) (hmono : ∀ t ∈ ticks, t.le now = true)
    (hfleet : m'.fleet = (m.fleet.tick now).1)
    (hstored : m'.loop ≠ .unstarted → m'.kept.lastInvoke? spec.name = m'.fleet.invokedAt? i) :
    m'.Paced i spec
      (times ++ if i ∈ (m.fleet.tick now).2.admitted then [now] else []) (ticks ++ [now]) := by
  have hlast : ∀ due ∈ ticks ++ [now], due.le now = true := by
    intro due hdue
    rcases List.mem_append.mp hdue with hdue | hdue
    · exact hmono due hdue
    · exact List.mem_singleton.mp hdue ▸ Instant.le_refl due
  have hchain : times.IsChain (DueBy (ticks ++ [now]) spec.interval) :=
    h.chain.imp fun _ _ hdue => hdue.append [now]
  have hnoted := invokedAt?_tick m.fleet now i
  by_cases hadm : i ∈ (m.fleet.tick now).2.admitted
  · obtain ⟨due, hmem, t, ht, hdue⟩ := h.due_of_candidate hspec (List.mem_of_mem_take hadm)
    simp only [ht, Option.map_some, if_pos hadm] at hnoted
    rw [if_pos hadm]
    refine ⟨?_, fun hi => ?_, hstored, ?_⟩
    · simpa [hfleet] using hnoted
    · rw [hfleet] at hi
      exact absurd hadm (hq.not_admitted hi)
    · -- the last time is the noted one, since which the interval had elapsed at `due`
      refine hchain.append (List.isChain_singleton now) fun t₁ ht₁ t₂ ht₂ => ?_
      obtain rfl : now = t₂ := by simpa using ht₂
      have hsame := h.noted t₁ ht₁
      rw [ht] at hsame
      cases hsame
      exact ⟨due, hmem, hdue, hlast due hmem⟩
  · simp only [if_neg hadm, Option.map_id'] at hnoted
    rw [if_neg hadm, List.append_nil]
    refine ⟨fun t ht => ?_, fun hi => ?_, hstored, hchain⟩
    · rw [hfleet, hnoted]
      exact h.noted t ht
    · rw [hfleet] at hi ⊢
      rw [hnoted]
      rw [tick_pending] at hi
      exact h.due_of_candidate hspec (List.mem_of_mem_drop hi)

/-- Whatever is not a tick of the fleet leaves the pace alone. -/
theorem Paced.moved (h : m.Paced i spec times ticks) (hmove : Moved a m.fleet m'.fleet)
    (hstored : m'.loop ≠ .unstarted → m'.kept.lastInvoke? spec.name = m'.fleet.invokedAt? i)
    (more : List Instant) : m'.Paced i spec times (ticks ++ more) := by
  refine ⟨fun t ht => ?_, fun hi => ?_, hstored, h.chain.imp fun _ _ hdue => hdue.append more⟩
  · rw [hmove.invokedAt?]
    exact h.noted t ht
  · rw [hmove.invokedAt?]
    obtain ⟨due, hmem, hdue⟩ := h.waits (hmove.pending ▸ hi)
    exact ⟨due, List.mem_append_left _ hmem, hdue⟩

/-! ### All lives -/

variable {store : MemoryStore} {es : List Event}

/-- The time that the checkpoint of a store has for a job, if it has one. -/
def keptTime (store : MemoryStore) (spec : JobSpec) : List Instant :=
  ((restorable store.load).lastInvoke? spec.name).toList

theorem getLast?_keptTime (store : MemoryStore) (spec : JobSpec) :
    (keptTime store spec).getLast? = (restorable store.load).lastInvoke? spec.name := by
  unfold keptTime
  cases (restorable store.load).lastInvoke? spec.name <;> rfl

@[simp] theorem admissionsAt_moved (i : Nat) (a : Action) (f : Fleet) :
    admissionsAt i [⟨a, f, none⟩] = [] := by
  simp [admissionsAt, Event.admissionAt?, Event.admitted]

@[simp] theorem admissionsAt_tick (i : Nat) (f : Fleet) (now : Instant) :
    admissionsAt i [⟨.tick now, f, some (f.tick now).2⟩] =
      if i ∈ (f.tick now).2.admitted then [now] else [] := by
  by_cases hadm : i ∈ (f.tick now).2.admitted <;>
    simp [admissionsAt, Event.admissionAt?, Event.admitted, Event.time?, hadm]

/-- The pace of a job is kept in all lives, as long as ticks do not go back in time. -/
theorem Lives.paced (h : Lives specs store es m) (hnodup : (specs.map JobSpec.name).Nodup)
    (hspec : specs[i]? = some spec)
    (hmono : (tickTimes es).Pairwise fun t₁ t₂ => t₁.le t₂ = true) :
    m.Paced i spec (keptTime store spec ++ admissionsAt i es) (tickTimes es) := by
  induction h with
  | first limit now =>
    have hempty : keptTime store spec ++ admissionsAt i [] = keptTime store spec :=
      List.append_nil _
    rw [hempty]
    refine paced_opened limit store now hspec ?_ fun t ht => ?_
    · unfold keptTime
      cases (restorable store.load).lastInvoke? spec.name <;> simp
    · rwa [getLast?_keptTime] at ht
  | again limit now _ hloop ih => exact (ih hmono).again hspec hloop limit now
  | @act es m m' a t hlives hact ha ih =>
    rw [tickTimes_append, List.pairwise_append] at hmono
    obtain ⟨hbefore, _, hlast⟩ := hmono
    have hpaced := ih hbefore
    have hspecs := hlives.fleet_specs
    have hspecs' : m'.fleet.specs = specs := (hlives.act hact ha).fleet_specs
    have hstored := stored_act? hpaced.stored (hspecs' ▸ hnodup) (hspecs' ▸ hspec) hact ha
    rw [admissionsAt_append, tickTimes_append, ← List.append_assoc]
    rcases act?_cases hact with ⟨rfl, hmove⟩ | ⟨now, rfl, _, _, rfl, hfleet⟩
    · rw [admissionsAt_moved, List.append_nil]
      exact hpaced.moved hmove hstored _
    · obtain ⟨limit, store', now', es', hrun⟩ := hlives.run
      have hq := hrun.wellQueued (wellQueued_restored limit specs _ now')
      rw [admissionsAt_tick]
      exact hpaced.tick hq (hspecs ▸ hspec)
        (fun t ht => hlast t ht now (by simp [tickTimes, Event.time?])) hfleet hstored

/-- **Admissions are spaced.**  Take any number of lives of a manager in which ticks never go back
    in time.  On a clock, two successive admissions of a job are more than its interval apart,
    whether they fall into one life or not; and the first admission comes more than the interval
    after the time that the first checkpoint has for the job, unless that time lies in a leap
    second, which can cost less than a second.  Should tick times lie in leap seconds too, less
    than two seconds are lost. -/
theorem Lives.admissions_spaced (h : Lives specs store es m)
    (hspecs : distinctJobs specs = .ok specs) (hspec : specs[i]? = some spec)
    (hmono : (tickTimes es).Pairwise fun t₁ t₂ => t₁.le t₂ = true) :
    ((∀ t ∈ tickTimes es, t.isClockReading = true) →
      (admissionsAt i es).IsChain (fun t₁ t₂ => t₂.exceeds t₁ spec.interval = true) ∧
      ∀ e, (restorable store.load).jobs.get? spec.name = some e →
        ∀ t ∈ (admissionsAt i es).head?,
          (e.lastInvoke.isClockReading = true → t.exceeds e.lastInvoke spec.interval = true) ∧
          (spec.interval : Int) * nanosPerSecond < t.nanosSince e.lastInvoke + nanosPerSecond) ∧
    (keptTime store spec ++ admissionsAt i es).IsChain fun t₁ t₂ =>
      (spec.interval : Int) * nanosPerSecond < t₂.nanosSince t₁ + 2 * nanosPerSecond := by
  have hchain := (h.paced (distinctJobs_nodup hspecs).2 hspec hmono).chain
  refine ⟨fun hclock => ?_, hchain.imp fun _ _ hdue => hdue.lt_add_two⟩
  obtain ⟨_, hadmissions, hfirst⟩ := List.isChain_append.mp hchain
  refine ⟨hadmissions.imp_of_mem_imp fun t₁ t₂ ht₁ ht₂ hdue => ?_, fun e he t ht => ?_⟩
  · exact hdue.exceeds hclock (hclock t₁ (mem_tickTimes_of_admission ht₁))
      (mem_tickTimes_of_admission ht₂)
  · have hkept : e.lastInvoke ∈ (keptTime store spec).getLast? := by
      simp [keptTime, Checkpoint.lastInvoke?, he]
    have hdue := hfirst _ hkept t ht
    have htick := mem_tickTimes_of_admission (List.mem_of_mem_head? ht)
    exact ⟨fun hentry => hdue.exceeds hclock hentry htick, hdue.lt_add hclock htick⟩

/-! ### From noon to midnight -/

/-- Two jobs with their intervals. -/
def pair (first second : Int64) : List JobSpec :=
  let spec (name : String) (interval : Int64) : JobSpec :=
    ⟨name, ⟨KeyMap.empty.insert Key.interval (.int interval)⟩, false, .once⟩
  [spec "a" first, spec "b" second]

/-- The job at a place executes a ticket, which takes no time. -/
def execution (i : Nat) (now : Instant) : List Action :=
  [.job i .receive, .job i (.finishAttempt (.ok .none)), .job i (.record now), .job i .publish]

def noon : Instant := .addMillis .epoch 43200000

/-- The beginning of a leap second a minute after noon. -/
def noonLeap : Instant := ⟨Instant.epoch.date, 43259, 1000000000, rfl⟩

def beforeMidnight : Instant := .addMillis .epoch 86399500

/-- Within a leap second before midnight. -/
def midnightLeap : Instant := ⟨Instant.epoch.date, 86399, 1900000000, rfl⟩

def midnight : Instant := .addMillis .epoch 86400000

/-- The first job is admitted and executed at the start of a life. -/
def firstAdmitted (now : Instant) : List Action :=
  [.start now, .endSave true, .tick now, .endSave true] ++ execution 0 now

/-- A store in which the second job was admitted in the leap second after noon. -/
def leapStore : MemoryStore := .holding (some ⟨KeyMap.empty.insert "b" ⟨noonLeap, none, none⟩⟩)

/-- The first job is admitted at noon and due again in the leap second before midnight, when it has
    to wait for the second one. -/
def leapTicks : List Action :=
  firstAdmitted noon ++ [.tick (noon.addMillis 1000), .endSave true, .tick midnightLeap,
    .endSave true] ++ execution 1 midnight ++ [.tick midnight]

/-- Leap seconds spoil the spacing: one in the first checkpoint does, even on a clock, and one
    among the tick times does, even without a checkpoint. -/
theorem spacing_lost_to_leap_second :
    (¬ ∀ (specs : List JobSpec) (store : MemoryStore) (es : List Event) (m : Manager) (i : Nat)
        (spec : JobSpec) (e : CheckpointEntry) (t : Instant),
      Lives specs store es m → distinctJobs specs = .ok specs → specs[i]? = some spec →
        (tickTimes es).Pairwise (fun t₁ t₂ => t₁.le t₂ = true) →
        (∀ t ∈ tickTimes es, t.isClockReading = true) →
        (restorable store.load).jobs.get? spec.name = some e → (admissionsAt i es).head? = some t →
          t.exceeds e.lastInvoke spec.interval = true) ∧
    ¬ ∀ (specs : List JobSpec) (es : List Event) (m : Manager) (i : Nat) (spec : JobSpec),
      Lives specs (.holding none) es m → distinctJobs specs = .ok specs →
        specs[i]? = some spec → (tickTimes es).Pairwise (fun t₁ t₂ => t₁.le t₂ = true) →
          (admissionsAt i es).IsChain fun t₁ t₂ => t₂.exceeds t₁ spec.interval = true := by
  constructor
  · intro hclaim
    have hopened : Lives (pair 3600 43140) leapStore [] _ := .first 1 beforeMidnight
    have hlives := hopened.played (firstAdmitted beforeMidnight ++ [.tick midnight]) rfl
      (by simp [firstAdmitted, execution])
    have hspaced := hclaim _ _ _ _ 1 _ ⟨noonLeap, none, none⟩ midnight hlives rfl rfl
      (by decide) (by decide) rfl rfl
    exact absurd hspaced (by decide)
  · intro hclaim
    obtain ⟨es, m, hlives, htimes, hmono⟩ : ∃ es m,
        Lives (pair 43200 3600) (.holding none) es m ∧ admissionsAt 0 es = [noon, midnight] ∧
          (tickTimes es).Pairwise (fun t₁ t₂ => t₁.le t₂ = true) := by
      have hopened : Lives (pair 43200 3600) (.holding none) [] _ := .first 1 noon
      have hlives := hopened.played leapTicks rfl (by simp [leapTicks, firstAdmitted, execution])
      exact ⟨_, _, hlives, rfl, by decide⟩
    have hspaced := hclaim _ es m 0 _ hlives rfl rfl hmono
    rw [htimes, List.isChain_pair] at hspaced
    exact absurd hspaced (by decide)

/-- The job of noon, due again at midnight, is admitted a second later in the life that begins
    then. -/
theorem two_lives_admissions_spaced :
    ∃ es m, Lives (pair 43200 3600) (.holding none) es m ∧
      admissionsAt 0 es = [noon, midnight.addMillis 1000] ∧
      (admissionsAt 0 es).IsChain fun t₁ t₂ => t₂.exceeds t₁ 43200 = true := by
  have hopened : Lives (pair 43200 3600) (.holding none) [] _ := .first 1 noon
  have hfirst := hopened.played (firstAdmitted noon) rfl (by simp [firstAdmitted, execution])
  have hsecond := (hfirst.again 2 midnight (Or.inl rfl)).played [.start midnight, .endSave true,
    .tick midnight, .endSave true, .tick (midnight.addMillis 1000)] rfl (by simp)
  have hspaced := hsecond.admissions_spaced (i := 0) rfl rfl (by decide)
  exact ⟨_, _, hsecond, rfl, (hspaced.1 (by decide)).1⟩

end Manager

end SyncFleet
